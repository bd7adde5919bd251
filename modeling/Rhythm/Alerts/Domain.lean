import Rhythm.Alerts.Notifications

/-!
# Rhythm.Alerts.Domain

The rows of `alerts`: those of the component's own monitors and those received
from OpenSearch, in one table.  The evidence, the links and the sample expiry
of a received alert are written but decide nothing and are left out.
-/

namespace Rhythm.Alerts

inductive AlertState where
  | open | acknowledged | resolved | suppressed | error
  deriving DecidableEq

inductive Severity where
  | critical | high | warning | low | info
  deriving DecidableEq

/-- `source_type`. -/
inductive AlertSource where
  | rhythmMonitor | openSearchAlerting
  deriving DecidableEq

/-- The columns that name the upstream alert. -/
structure ExternalIdentity where
  receiverId : String
  monitorId : String
  monitorName : String
  monitorType : String
  triggerId : String
  triggerName : String
  alertId : String
  bucketKey : String
  deriving DecidableEq

/-- A row of `alerts`.  A `NULL` text is `""`. -/
structure Alert where
  id : AlertId
  monitorId : Option MonitorId
  deduplicationKey : String
  state : AlertState
  severity : Severity
  title : String
  description : String
  failureCategory : String
  failedStepId : String
  consecutiveFailures : Nat
  firstTriggeredAt : Time
  lastTriggeredAt : Time
  resolvedAt : Option Time
  createdAt : Time
  updatedAt : Time
  source : AlertSource
  external : Option ExternalIdentity
  upstreamState : String
  hitCount : Option Int
  lastReceivedAt : Option Time
  lastReconciledAt : Option Time
  deriving DecidableEq

abbrev AlertTable := Table Alert Alert.id

/-- `state IN ('OPEN','ACKNOWLEDGED')`, the condition of the unique index on the
deduplication key. -/
def Alert.IsActive (alert : Alert) : Prop := alert.state = .open ∨ alert.state = .acknowledged

instance : DecidablePred Alert.IsActive := fun alert =>
  inferInstanceAs (Decidable (alert.state = .open ∨ alert.state = .acknowledged))

/-- The identifier that `id.NewUUID` makes for a new row: one that no row has. -/
abbrev FreshAlertId (alerts : AlertTable) := { id : AlertId // alerts.get? id = none }

end Rhythm.Alerts
