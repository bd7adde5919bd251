import Rhythm.Suites.Distribution

/-!
# Rhythm.Suites.Slower

Is a slower service judged better?  `classify` compares the 95th percentiles of a
baseline and of the samples after a deployment.  Both its measures, the change in
milliseconds and the change in percent, grow with the second percentile and shrink
with the first, and rounding keeps that order.

The one exception is a baseline of zero milliseconds.  There the change in percent
is left zero, however slow the samples are, and no positive guardrail is exceeded.
-/

namespace Rhythm.Suites

open Numeric

/-- `IMPROVED` is better than `NORMAL`, and that better than `REGRESSED`. -/
def Classification.rank : Classification → Nat
  | .improved => 0
  | .regressed => 2
  | .normal | .unset | .pending | .insufficientHistory => 1

/-- The change of the 95th percentile in percent, as `classify` computes it. -/
def changePercent (base post : Int) : Rat :=
  if base > 0 then roundTenths ((post - base : Int) / base * 100) else 0

/-- The judgement of `classify`, from the two changes. -/
def judge (config : DeploymentConfiguration) (delta : Int) (change : Rat) : Classification :=
  if delta ≥ config.regressionMinimumMs ∧ change ≥ config.regressionPercent then .regressed
  else if delta ≤ -config.regressionMinimumMs ∧ change ≤ -config.regressionPercent then .improved
  else .normal

def Distribution.Suffices (distribution : Distribution) (config : DeploymentConfiguration) :
    Prop :=
  config.minimumSamples ≤ distribution.sampleCount

instance (distribution : Distribution) (config : DeploymentConfiguration) :
    Decidable (distribution.Suffices config) :=
  inferInstanceAs (Decidable (config.minimumSamples ≤ distribution.sampleCount))

section Judgement

variable {config : DeploymentConfiguration} {delta delta' : Int} {change change' : Rat}

theorem classification_classify {base post : Distribution} (hbase : base.Suffices config)
    (hpost : post.Suffices config) : (classify base post config).classification =
      judge config (post.p95Ms - base.p95Ms) (changePercent base.p95Ms post.p95Ms) := by
  grind [Distribution.Suffices, classify, judge, changePercent]

theorem judge_eq_regressed_iff : judge config delta change = .regressed ↔
    delta ≥ config.regressionMinimumMs ∧ change ≥ config.regressionPercent := by
  unfold judge
  split
  · next hworse => exact iff_of_true rfl hworse
  · next hnot =>
    refine iff_of_false ?_ hnot
    split <;> nofun

theorem rank_judge_mono (hdelta : delta ≤ delta') (hchange : change ≤ change') :
    (judge config delta change).rank ≤ (judge config delta' change').rank := by
  by_cases hworse : delta' ≥ config.regressionMinimumMs ∧ change' ≥ config.regressionPercent
  · rw [judge_eq_regressed_iff.mpr hworse]
    unfold judge
    split
    · exact le_rfl
    · split <;> decide
  · have hbetter : ¬(delta ≥ config.regressionMinimumMs ∧ change ≥ config.regressionPercent) :=
      fun h => hworse ⟨h.1.trans hdelta, h.2.trans hchange⟩
    rw [judge, if_neg hbetter, judge, if_neg hworse]
    by_cases himproved :
        delta' ≤ -config.regressionMinimumMs ∧ change' ≤ -config.regressionPercent
    · rw [if_pos himproved, if_pos ⟨hdelta.trans himproved.1, hchange.trans himproved.2⟩]
    · rw [if_neg himproved]
      split <;> decide

theorem one_le_rank_judge_zero (hdelta : 0 ≤ delta) : 1 ≤ (judge config delta 0).rank := by
  unfold judge
  split
  · decide
  · next hnot =>
    rw [if_neg]
    · decide
    · rintro ⟨hsmall, hzero⟩
      exact hnot ⟨by omega, by linarith⟩

theorem changePercent_mono {base base' post post' : Int} (hbase : 0 < base) (hle : base ≤ base')
    (hpost : 0 ≤ post) (hslower : post ≤ post') :
    changePercent base' post ≤ changePercent base post' := by
  have hbase' : (0 : Rat) < base := by exact_mod_cast hbase
  have hle' : (base : Rat) ≤ base' := by exact_mod_cast hle
  have hpost' : (0 : Rat) ≤ post := by exact_mod_cast hpost
  have hslower' : (post : Rat) ≤ post' := by exact_mod_cast hslower
  have hratio : (post : Rat) / base' ≤ post' / base := by
    have hpost'' := hpost'.trans hslower'
    gcongr
  rw [changePercent, if_pos (show base' > 0 by omega), changePercent, if_pos hbase]
  apply roundTenths_mono
  push_cast
  rw [sub_div, sub_div, div_self (by linarith), div_self (by linarith)]
  linarith

end Judgement

/-! ## Slower services -/

/-- The change to a zero baseline hides a regression: measured from the larger baseline, the
samples exceed both guardrails, of which the relative one is positive. -/
def HiddenByZero (config : DeploymentConfiguration) (base base' post : Int) : Prop :=
  base = 0 ∧ 0 < base' ∧ 0 < config.regressionPercent ∧
    config.regressionMinimumMs ≤ post - base' ∧
    config.regressionPercent ≤ roundTenths ((post - base' : Int) / base' * 100)

/-- **Slower is judged no better**, unless a baseline of zero hides the regression. -/
theorem classify_slower_iff (config : DeploymentConfiguration)
    {base base' post post' : Distribution} (hbase : base.Suffices config)
    (hbase' : base'.Suffices config) (hpost : post.Suffices config)
    (hpost' : post'.Suffices config) (hbaseNonneg : 0 ≤ base.p95Ms)
    (hfaster : base.p95Ms ≤ base'.p95Ms) (hpostNonneg : 0 ≤ post.p95Ms)
    (hslower : post.p95Ms ≤ post'.p95Ms) :
    (classify base' post config).classification.rank ≤
        (classify base post' config).classification.rank ↔
      ¬HiddenByZero config base.p95Ms base'.p95Ms post.p95Ms := by
  rw [classification_classify hbase' hpost, classification_classify hbase hpost']
  have hdelta : post.p95Ms - base'.p95Ms ≤ post'.p95Ms - base.p95Ms := by omega
  by_cases hpositive : 0 < base.p95Ms
  · have hchange := changePercent_mono hpositive hfaster hpostNonneg hslower
    exact iff_of_true (rank_judge_mono hdelta hchange) fun h => by
      have hzero := h.1
      omega
  have hzero : base.p95Ms = 0 := by omega
  have hchange' : changePercent base.p95Ms post'.p95Ms = 0 := if_neg hpositive
  rw [hchange']
  by_cases hbase'Zero : base'.p95Ms = 0
  · have hchange : changePercent base'.p95Ms post.p95Ms = 0 := if_neg (by omega)
    rw [hchange]
    exact iff_of_true (rank_judge_mono hdelta le_rfl) fun h => by
      have hbase'Positive := h.2.1
      omega
  have hbase'Positive : 0 < base'.p95Ms := by omega
  have hchange : changePercent base'.p95Ms post.p95Ms =
      roundTenths ((post.p95Ms - base'.p95Ms : Int) / base'.p95Ms * 100) := if_pos hbase'Positive
  rw [hchange]
  -- Measured from the zero baseline, the samples regress only when the guardrail is zero.
  by_cases hregressed : judge config (post.p95Ms - base'.p95Ms)
      (roundTenths ((post.p95Ms - base'.p95Ms : Int) / base'.p95Ms * 100)) = .regressed
  · obtain ⟨hms, hrelative⟩ := judge_eq_regressed_iff.mp hregressed
    rw [hregressed]
    by_cases hguard : 0 < config.regressionPercent
    · have hnormal : judge config (post'.p95Ms - base.p95Ms) 0 ≠ .regressed := fun h => by
        have hexceeds := (judge_eq_regressed_iff.mp h).2
        linarith
      refine iff_of_false ?_ (not_not_intro ⟨hzero, hbase'Positive, hguard, hms, hrelative⟩)
      unfold judge at hnormal ⊢
      split at hnormal
      · contradiction
      · next hnot =>
        rw [if_neg hnot]
        split <;> decide
    · have hregressed' : judge config (post'.p95Ms - base.p95Ms) 0 = .regressed :=
        judge_eq_regressed_iff.mpr ⟨hms.trans hdelta, by linarith⟩
      rw [hregressed']
      exact iff_of_true le_rfl fun h => hguard h.2.2.1
  · have hweak : (judge config (post.p95Ms - base'.p95Ms)
        (roundTenths ((post.p95Ms - base'.p95Ms : Int) / base'.p95Ms * 100))).rank ≤ 1 := by
      unfold judge at hregressed ⊢
      split at hregressed
      · contradiction
      · next hnot =>
        rw [if_neg hnot]
        split <;> decide
    have hstrong : 1 ≤ (judge config (post'.p95Ms - base.p95Ms) 0).rank :=
      one_le_rank_judge_zero (by omega)
    exact iff_of_true (hweak.trans hstrong) fun h =>
      hregressed (judge_eq_regressed_iff.mpr ⟨h.2.2.2.1, h.2.2.2.2⟩)

/-- A gate with a guardrail of 20 ms and 20 percent, for one sample. -/
def strictConfiguration : DeploymentConfiguration := ⟨1, 1, 20, 20, fun _ => none, []⟩

def sampleOf (ms : Int) : Distribution :=
  { emptyDistribution with sampleCount := 1, p95Ms := ms }

/-- 100 ms after a baseline of 10 ms is a regression; after 20 ms the same samples are judged no
worse than a slower deployment with 200 ms. -/
theorem classify_slower_iff_regressed :
    (classify (sampleOf 20) (sampleOf 100) strictConfiguration).classification.rank ≤
        (classify (sampleOf 10) (sampleOf 200) strictConfiguration).classification.rank ↔
      ¬HiddenByZero strictConfiguration 10 20 100 :=
  classify_slower_iff strictConfiguration (by decide) (by decide) (by decide) (by decide)
    (by decide) (by decide) (by decide) (by decide)

/-- 100 ms is a regression after 10 ms and none after 0 ms. -/
theorem classify_zeroBaseline_better :
    ¬∀ (config : DeploymentConfiguration) (base base' post post' : Distribution),
      0 ≤ config.regressionMinimumMs → 0 ≤ config.regressionPercent → base.Suffices config →
      base'.Suffices config → post.Suffices config → post'.Suffices config → 0 ≤ base.p95Ms →
      base.p95Ms ≤ base'.p95Ms → 0 ≤ post.p95Ms → post.p95Ms ≤ post'.p95Ms →
      (classify base' post config).classification.rank ≤
        (classify base post' config).classification.rank := by
  intro h
  have hrank := h strictConfiguration (sampleOf 0) (sampleOf 10) (sampleOf 100) (sampleOf 100)
    (by decide) (by decide) (by decide) (by decide) (by decide) (by decide) (by decide)
    (by decide) (by decide) (by decide)
  revert hrank
  decide +kernel

end Rhythm.Suites
