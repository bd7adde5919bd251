import Mathlib.Algebra.Ring.Int.Defs
import Rhythm.Json
import Rhythm.Runs.Domain

/-!
# Rhythm.Runs.Timing

An execution as its readers see it, with its steps, and the API response time
that a step's timing map records.
-/

namespace Rhythm.Runs

/-- One step of an execution.  The timing map is empty when there is none. -/
structure StepRun where
  stepDefinitionId : String
  stepName : String
  stepType : String
  status : Status
  timing : List (String × Json)

/-- A `Run`, as `Get` and `WaitForTerminal` return it. -/
structure ExecutedRun where
  id : RunId
  revisionId : RevisionId
  status : Status
  failureCategory : String
  durationMs : Int
  createdAt : Time
  steps : List StepRun

/-- `apiResponsePhaseKeys`. -/
def apiResponsePhaseKeys : List String :=
  ["dnsMs", "proxyConnectMs", "connectMs", "tlsHandshakeMs", "requestWriteMs", "serverWaitMs",
    "downloadMs"]

/-- `timingMilliseconds`: a number without its fraction; anything else is `0`. -/
def timingMilliseconds (timing : List (String × Json)) (key : String) : Int :=
  match timing.lookup key with
  | some (.num value) => value.num.tdiv value.den
  | _ => 0

/-- `RecordedAPIResponseMS`: the recorded total, under its current or its former name, or the sum
of the recorded phases. -/
def recordedAPIResponseMS (timing : List (String × Json)) : Option Int :=
  if (timing.lookup "apiResponseTimeMs").isSome then
    some (timingMilliseconds timing "apiResponseTimeMs")
  else if (timing.lookup "networkTotalMs").isSome then
    some (timingMilliseconds timing "networkTotalMs")
  else
    let recorded := apiResponsePhaseKeys.filter fun key => (timing.lookup key).isSome
    if recorded = [] then none else some (recorded.map (timingMilliseconds timing)).sum

end Rhythm.Runs
