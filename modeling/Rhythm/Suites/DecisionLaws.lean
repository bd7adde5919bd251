import Rhythm.Suites.Decision

/-!
# Rhythm.Suites.DecisionLaws

The laws of `deploymentDecisionWithBrowser`.  Its loops keep two flags beside the two lists of
messages that it returns; `Tally.Agrees` says that each flag is up exactly when its list has a
message, and every loop keeps it.

Which evidence blocks and which is in order are questions about members of the lists.  So
the decision depends on no order, and more evidence makes it no weaker.
-/

namespace Rhythm.Suites

/-- `BLOCK` is stronger than `ALLOW_WITH_WARNINGS`, and that stronger than `ALLOW`. -/
def GateDecision.strength : GateDecision → Nat
  | .pending | .allow => 0
  | .allowWithWarnings => 1
  | .block => 2

/-! ## Flags and messages -/

/-- Each flag is up exactly when its list has a message. -/
structure Tally.Agrees (tally : Tally) : Prop where
  block : tally.block = true ↔ tally.reasons ≠ []
  warn : tally.warn = true ↔ tally.warnings ≠ []

namespace Tally.Agrees

variable {tally : Tally}

theorem empty : Tally.empty.Agrees := ⟨by simp [Tally.empty], by simp [Tally.empty]⟩

theorem addWarning (h : tally.Agrees) (message : String) : (tally.addWarning message).Agrees where
  block := h.block
  warn := by simp [Tally.addWarning]

theorem addReason (h : tally.Agrees) (message : String) : (tally.addReason message).Agrees where
  block := by simp [Tally.addReason]
  warn := h.warn

theorem addFault (h : tally.Agrees) (blocks : Bool) (message : String) :
    (tally.addFault blocks message).Agrees := by
  cases blocks with
  | true => exact h.addReason message
  | false => exact h.addWarning message

theorem tallyMonitor (h : tally.Agrees) (classification : Classification) (faulty required : Bool)
    (insufficient failed : String) :
    (tallyMonitor classification faulty required insufficient failed tally).Agrees := by
  have hhistory : (if classification = .insufficientHistory then tally.addWarning insufficient
      else tally).Agrees := by
    split
    · exact h.addWarning insufficient
    · exact h
  unfold Suites.tallyMonitor
  cases faulty with
  | true => exact hhistory.addFault required failed
  | false => exact hhistory

theorem tallyDynatraceComparison (h : tally.Agrees) (result : DynatraceComparison) :
    (tallyDynatraceComparison tally result).Agrees := by
  unfold Suites.tallyDynatraceComparison
  split
  · exact h
  · exact h.addFault _ _

theorem tallyCheckResult (h : tally.Agrees) (label : String) (result : CheckResult) :
    (tallyCheckResult label tally result).Agrees := by
  unfold Suites.tallyCheckResult
  split
  · exact h
  · exact h.addFault _ _

theorem foldl {α : Type} {f : Tally → α → Tally}
    (hf : ∀ tally item, tally.Agrees → (f tally item).Agrees) (items : List α)
    (h : tally.Agrees) : (items.foldl f tally).Agrees := by
  induction items generalizing tally with
  | nil => exact h
  | cons item items ih => exact ih (hf tally item h)

end Tally.Agrees

theorem agrees_tallyEvidence (evidence : Evidence) : (tallyEvidence evidence).Agrees := by
  have hmonitors := Tally.Agrees.foldl (f := tallyMonitorComparison)
    (fun _ _ h => h.tallyMonitor ..) evidence.monitors .empty
  have hbrowsers := Tally.Agrees.foldl (f := tallyBrowserComparison)
    (fun _ _ h => h.tallyMonitor ..) evidence.browserMonitors hmonitors
  have hdynatrace := Tally.Agrees.foldl (f := tallyDynatraceComparison)
    (fun _ result h => h.tallyDynatraceComparison result) evidence.dynatraceResults hbrowsers
  have helf := Tally.Agrees.foldl (f := tallyCheckResult "ELF")
    (fun _ result h => h.tallyCheckResult _ result) evidence.elfResults hdynatrace
  exact Tally.Agrees.foldl (fun _ result h => h.tallyCheckResult _ result) evidence.alertResults
    helf

/-! ## Order and growth -/

/-- The same results, each list in any order. -/
structure Evidence.Rearranged (evidence evidence' : Evidence) : Prop where
  monitors : evidence.monitors.Perm evidence'.monitors
  browserMonitors : evidence.browserMonitors.Perm evidence'.browserMonitors
  dynatraceResults : evidence.dynatraceResults.Perm evidence'.dynatraceResults
  elfResults : evidence.elfResults.Perm evidence'.elfResults
  alertResults : evidence.alertResults.Perm evidence'.alertResults

/-- Further results at the ends of the lists. -/
structure Evidence.Continued (evidence evidence' : Evidence) : Prop where
  monitors : evidence.monitors <+: evidence'.monitors
  browserMonitors : evidence.browserMonitors <+: evidence'.browserMonitors
  dynatraceResults : evidence.dynatraceResults <+: evidence'.dynatraceResults
  elfResults : evidence.elfResults <+: evidence'.elfResults
  alertResults : evidence.alertResults <+: evidence'.alertResults

section Laws

variable {evidence evidence' : Evidence}

theorem Evidence.Rearranged.blocks_eq (h : evidence.Rearranged evidence') :
    evidence.blocks = evidence'.blocks := by
  rw [blocks, blocks, h.monitors.any_eq, h.browserMonitors.any_eq, h.dynatraceResults.any_eq,
    h.elfResults.any_eq, h.alertResults.any_eq]

theorem Evidence.Rearranged.flagged_eq (h : evidence.Rearranged evidence') :
    evidence.flagged = evidence'.flagged := by
  rw [flagged, flagged, h.monitors.any_eq, h.browserMonitors.any_eq, h.dynatraceResults.any_eq,
    h.elfResults.any_eq, h.alertResults.any_eq]

theorem any_initial {α : Type} {items items' : List α} (h : items <+: items') {p : α → Bool}
    (hany : items.any p = true) : items'.any p = true := by
  rw [List.any_eq_true] at hany ⊢
  obtain ⟨item, hitem, hp⟩ := hany
  exact ⟨item, h.subset hitem, hp⟩

theorem Evidence.Continued.blocks (h : evidence.Continued evidence')
    (hblocks : evidence.blocks = true) : evidence'.blocks = true := by
  simp only [Evidence.blocks, Bool.or_eq_true] at hblocks ⊢
  exact hblocks.imp (.imp (.imp (.imp (any_initial h.monitors) (any_initial h.browserMonitors))
    (any_initial h.dynatraceResults)) (any_initial h.elfResults)) (any_initial h.alertResults)

theorem Evidence.Continued.flagged (h : evidence.Continued evidence')
    (hflagged : evidence.flagged = true) : evidence'.flagged = true := by
  simp only [Evidence.flagged, Bool.or_eq_true] at hflagged ⊢
  exact hflagged.imp (.imp (.imp (.imp (any_initial h.monitors) (any_initial h.browserMonitors))
    (any_initial h.dynatraceResults)) (any_initial h.elfResults)) (any_initial h.alertResults)

theorem decision_eq (evidence : Evidence) : (deploymentDecisionWithBrowser evidence).1 =
    if evidence.blocks then .block else if evidence.flagged then .allowWithWarnings
    else .allow := by
  rw [← block_tallyEvidence, ← flagged_tallyEvidence, deploymentDecisionWithBrowser, Tally.flagged]
  cases (tallyEvidence evidence).block with
  | true | false => rfl

theorem strength_decision_le (hblocks : evidence.blocks = true → evidence'.blocks = true)
    (hflagged : evidence.flagged = true → evidence'.flagged = true) :
    (deploymentDecisionWithBrowser evidence).1.strength ≤
      (deploymentDecisionWithBrowser evidence').1.strength := by
  rw [decision_eq, decision_eq]
  by_cases hstrong : evidence.blocks = true
  · rw [if_pos hstrong, if_pos (hblocks hstrong)]
  · rw [if_neg hstrong]
    by_cases hweak : evidence.flagged = true
    · rw [if_pos hweak, if_pos (hflagged hweak)]
      split <;> decide
    · rw [if_neg hweak]
      exact Nat.zero_le _

/-- **The deployment decision is sound, independent of order and monotone.** -/
theorem deploymentDecision_laws (evidence : Evidence) :
    ((deploymentDecisionWithBrowser evidence).1 = .block ↔
        (deploymentDecisionWithBrowser evidence).2.2 ≠ []) ∧
      ((deploymentDecisionWithBrowser evidence).1 = .allow ↔
        (deploymentDecisionWithBrowser evidence).2.1 = [] ∧
          (deploymentDecisionWithBrowser evidence).2.2 = []) ∧
      (∀ evidence', evidence.Rearranged evidence' →
        (deploymentDecisionWithBrowser evidence').1 = (deploymentDecisionWithBrowser evidence).1) ∧
      ∀ evidence', evidence.Continued evidence' →
        (deploymentDecisionWithBrowser evidence).1.strength ≤
          (deploymentDecisionWithBrowser evidence').1.strength := by
  have hagrees := agrees_tallyEvidence evidence
  refine ⟨?_, ?_, ?_, ?_⟩
  · rw [decision_eq_block_iff, ← block_tallyEvidence]
    exact hagrees.block
  · have hflagged : (tallyEvidence evidence).flagged = false ↔
        (tallyEvidence evidence).warnings = [] ∧ (tallyEvidence evidence).reasons = [] := by
      rw [Tally.flagged, Bool.or_eq_false_iff, ← Bool.not_eq_true, hagrees.block, not_not,
        ← Bool.not_eq_true, hagrees.warn, not_not, and_comm]
    rw [decision_eq_allow_iff, ← flagged_tallyEvidence]
    exact hflagged
  · intro evidence' h
    rw [decision_eq, decision_eq, h.blocks_eq, h.flagged_eq]
  · intro evidence' h
    exact strength_decision_le h.blocks h.flagged

/-- A failed check that is not required, before and after one that is. -/
theorem deploymentDecision_laws_logs : ∃ evidence : Evidence,
    (deploymentDecisionWithBrowser evidence).1 = .allowWithWarnings ∧
      (deploymentDecisionWithBrowser evidence).1.strength ≤
        (deploymentDecisionWithBrowser
          { evidence with elfResults := evidence.elfResults ++
              [⟨"2", "errors", "Errors", true, "FAILED"⟩] }).1.strength :=
  ⟨⟨[], [], [], [⟨"1", "latency", "Latency", false, "FAILED"⟩], []⟩, by decide,
    (deploymentDecision_laws _).2.2.2 _
      ⟨List.prefix_rfl, List.prefix_rfl, List.prefix_rfl, List.prefix_append _ _,
        List.prefix_rfl⟩⟩

end Laws

end Rhythm.Suites
