import Rhythm.Runs.Evaluation

/-!
# Rhythm.Runs.ResponseTime

Which time do response-time checks judge?  The timing of a step records, as the API response time,
how long the last attempt took; extractors and assertions are given the time since the step
began.  `judgesResponseTime_iff`: the two agree exactly when everything else takes no
millisecond more.
-/

namespace Rhythm.Runs.Evaluation

open Text Printed

/-! ## The clock of a step -/

/-- An attempt that is tried again: the wait before it, the exchange, and the reading of a response
that is dropped. -/
structure FailedAttempt where
  backoff : Nat
  exchange : Nat
  dropped : Option Nat
deriving DecidableEq

/-- How long the phases of a step take that gets its response, in nanoseconds. -/
structure StepDurations where
  /-- Actions, the pre-request script with its auxiliary requests, the transport and the request. -/
  preparation : Nat
  /-- Until the target has a slot. -/
  waiting : Nat
  failed : List FailedAttempt
  /-- Before the last attempt. -/
  backoff : Nat
  exchange : Nat
  /-- Until the body is read. -/
  download : Nat
  /-- Between the body and the extractors. -/
  summary : Nat
  extraction : Nat
  testScript : Nat
deriving DecidableEq

/-- `Milliseconds`. -/
def milliseconds (nanoseconds : Nat) : Int := (nanoseconds / 1000000 : Nat)

/-- The part of an `AttemptRun` that the totals read. -/
structure AttemptRun where
  durationMS : Int
  retryBackoffMS : Int

def FailedAttempt.run (attempt : FailedAttempt) : AttemptRun where
  durationMS := milliseconds (attempt.exchange + attempt.dropped.getD 0)
  retryBackoffMS := milliseconds attempt.backoff

def FailedAttempt.total (attempt : FailedAttempt) : Nat :=
  attempt.backoff + attempt.exchange + attempt.dropped.getD 0

namespace StepDurations

variable (d : StepDurations)

def apiResponse : Nat := d.exchange + d.download

def before : Nat :=
  d.preparation + d.waiting + (d.failed.map FailedAttempt.total).sum + d.backoff

/-- `time.Since(started)`, for the extractors. -/
def extractorDuration : Int := milliseconds (d.before + d.apiResponse + d.summary)

/-- `time.Since(started)`, for the assertions. -/
def assertionDuration : Int :=
  milliseconds (d.before + d.apiResponse + d.summary + d.extraction + d.testScript)

def attempts : List AttemptRun :=
  d.failed.map FailedAttempt.run ++ [⟨milliseconds d.apiResponse, milliseconds d.backoff⟩]

end StepDurations

/-- A `map[string]any` of durations. -/
abbrev Timing := List (String × Int)

def applyAttemptTotals (timing : Timing) (attempts : List AttemptRun) : Timing :=
  let timing := Unmarshal.setKey timing "networkTotalMs" (attempts.map AttemptRun.durationMS).sum
  let timing :=
    Unmarshal.setKey timing "retryBackoffMs" (attempts.map AttemptRun.retryBackoffMS).sum
  match attempts.getLast? with
  | none => timing
  | some last => Unmarshal.setKey timing "apiResponseTimeMs" last.durationMS

/-- The timing of the step: what the last attempt has traced, the phases and the totals; `rest` is
what the assertions and the end of the step take. -/
def stepTiming (d : StepDurations) (trace : Timing) (rest : Nat) : Timing :=
  let timing := trace.foldl (fun timing entry => Unmarshal.setKey timing entry.1 entry.2)
    [("preparationMs", milliseconds d.preparation)]
  let timing := Unmarshal.setKey timing "attempts" d.attempts.length
  let timing := Unmarshal.setKey timing "downloadMs" (milliseconds d.download)
  let timing := Unmarshal.setKey timing "extractionMs" (milliseconds d.extraction)
  let timing := Unmarshal.setKey timing "testScriptMs" (milliseconds d.testScript)
  let timing := applyAttemptTotals timing d.attempts
  Unmarshal.setKey timing "totalMs"
    (milliseconds (d.before + d.apiResponse + d.summary + d.extraction + d.testScript + rest))

theorem lookup_stepTiming (d : StepDurations) (trace : Timing) (rest : Nat) :
    (stepTiming d trace rest).lookup "apiResponseTimeMs" = some (milliseconds d.apiResponse) := by
  have hlast : d.attempts.getLast? = some ⟨milliseconds d.apiResponse, milliseconds d.backoff⟩ := by
    rw [StepDurations.attempts, List.getLast?_concat]
  rw [stepTiming, Unmarshal.lookup_setKey, if_neg (by decide), applyAttemptTotals, hlast]
  simp only [Unmarshal.lookup_setKey, if_true]

/-- The kinds of extractors and assertions that report a duration. -/
def timingKinds : List String := ["timing", "response-time"]

/-- **Response-time checks judge the API response time**: extractors give, and assertions compare,
what the step records. -/
structure JudgesResponseTime (lib : Library) (response : Response) (d : StepDurations) : Prop where
  extractors : ∀ configs trace rest,
    ∀ result ∈ evaluateExtractors lib response d.extractorDuration configs,
      result.config.source ∈ timingKinds →
        ∃ recorded ∈ (stepTiming d trace rest).lookup "apiResponseTimeMs",
          result.value = .ok (.int recorded)
  assertions : ∀ configs trace rest,
    ∀ result ∈ evaluateAssertions lib response d.assertionDuration configs,
      result.config.type ∈ timingKinds →
        ∃ recorded ∈ (stepTiming d trace rest).lookup "apiResponseTimeMs",
          result.observed = .ok (.int recorded) ∧
            result.passed = compareAssertion lib result.config (.int recorded)

def WithinMillisecond (d : StepDurations) : Prop :=
  d.apiResponse % 1000000 + (d.before + d.summary + d.extraction + d.testScript) < 1000000

instance (d : StepDurations) : Decidable (WithinMillisecond d) :=
  inferInstanceAs (Decidable (_ < _))

section Law

variable {lib : Library} {response : Response} {d : StepDurations}

theorem milliseconds_add_eq_iff (a b : Nat) :
    milliseconds (a + b) = milliseconds a ↔ a % 1000000 + b < 1000000 := by
  unfold milliseconds
  omega

theorem extractValue_timing {kind : String} (hkind : kind ∈ timingKinds) (duration : Int)
    (expression : String) :
    extractValue lib response duration kind expression = .ok (.int duration) := by
  simp only [timingKinds, List.mem_cons, List.not_mem_nil, or_false] at hkind
  obtain rfl | rfl := hkind <;> rfl

theorem assertionDuration_eq_iff :
    d.assertionDuration = milliseconds d.apiResponse ↔ WithinMillisecond d := by
  rw [WithinMillisecond, ← milliseconds_add_eq_iff, StepDurations.assertionDuration]
  refine Eq.congr_left (congrArg milliseconds ?_)
  omega

theorem extractorDuration_eq (h : WithinMillisecond d) :
    d.extractorDuration = milliseconds d.apiResponse := by
  have hsum : d.before + d.apiResponse + d.summary = d.apiResponse + (d.before + d.summary) := by
    omega
  rw [StepDurations.extractorDuration, hsum, milliseconds_add_eq_iff]
  unfold WithinMillisecond at h
  omega

theorem judgesResponseTime_iff_within :
    JudgesResponseTime lib response d ↔ WithinMillisecond d := by
  constructor
  · intro h
    let config : Decoding.AssertionConfig := { enabled := true, type := "response-time" }
    obtain ⟨recorded, hrecorded, hobserved, -⟩ := h.assertions [config] [] 0 _
      (List.mem_singleton_self _) (by decide : "response-time" ∈ timingKinds)
    rw [lookup_stepTiming, Option.mem_some_iff] at hrecorded
    rw [← assertionDuration_eq_iff, hrecorded]
    exact Observed.int.inj (Except.ok.inj hobserved)
  · intro h
    constructor
    · intro configs trace rest result hresult hkind
      obtain ⟨config, -, rfl⟩ := List.mem_map.mp hresult
      refine ⟨_, lookup_stepTiming d trace rest, ?_⟩
      rw [← extractorDuration_eq h]
      exact extractValue_timing hkind _ _
    · intro configs trace rest result hresult hkind
      obtain ⟨config, -, rfl⟩ := List.mem_map.mp hresult
      have hvalue : extractValue lib response d.assertionDuration config.type config.expression =
          .ok (.int (milliseconds d.apiResponse)) := by
        rw [extractValue_timing hkind, assertionDuration_eq_iff.mpr h]
      refine ⟨_, lookup_stepTiming d trace rest, hvalue, ?_⟩
      simp only [hvalue]

end Law

/-- **Response-time checks judge the API response time only**, exactly when the phases around the
last attempt do not lead into a new millisecond. -/
theorem judgesResponseTime_iff (lib : Library) (response : Response) (d : StepDurations) :
    JudgesResponseTime lib response d ↔ WithinMillisecond d :=
  judgesResponseTime_iff_within

def slowPreparation : StepDurations where
  preparation := 5000000
  waiting := 0
  failed := []
  backoff := 0
  exchange := 1000000
  download := 0
  summary := 0
  extraction := 0
  testScript := 0

/-- The preparation is judged too. -/
theorem preparation_judged : ¬ ∀ lib response d, JudgesResponseTime lib response d := by
  intro h
  have hwithin := judgesResponseTime_iff_within.mp
    (h sampleNumbers (okResponse none) slowPreparation)
  revert hwithin
  decide

end Rhythm.Runs.Evaluation
