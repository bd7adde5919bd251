import Rhythm.Transition
import Rhythm.Table
import Rhythm.Streak
import Rhythm.Fallible
import Rhythm.Text
import Rhythm.Json
import Rhythm.JsonPath
import Rhythm.Unmarshal
import Rhythm.Numeric
import Rhythm.Network.Address
import Rhythm.Network.Url
import Rhythm.Authz
import Rhythm.Library.Service
import Rhythm.Api.Server
import Rhythm.Api.SecretWrites
import Rhythm.Runs.Domain
import Rhythm.Runs.Timing
import Rhythm.Storage.RunRepository
import Rhythm.ExecutionJobs.Service
import Rhythm.ExecutionJobs.Effects
import Rhythm.ExecutionJobs.Invariant
import Rhythm.ExecutionJobs.Agreement
import Rhythm.ExecutionJobs.Finality
import Rhythm.ExecutionJobs.Fencing
import Rhythm.ExecutionJobs.Stranded
import Rhythm.Scheduler.Service
import Rhythm.Scheduler.Poll
import Rhythm.Scheduler.Isolation
import Rhythm.Scheduler.Keys
import Rhythm.Delayed
import Rhythm.Scheduler.Ticks
import Rhythm.Runs.Transport
import Rhythm.Scripts.Requests
import Rhythm.Scripts.DirectTargets
import Rhythm.Runs.Templates
import Rhythm.Runs.RequestSummary
import Rhythm.Runs.Workflow
import Rhythm.Runs.RequestEvidence
import Rhythm.Alerts.Domain
import Rhythm.Storage.AlertState
import Rhythm.Alerts.Notifications
import Rhythm.Alerts.OpenSearch
import Rhythm.Alerts.Reopened
import Rhythm.Alerts.Ingest
import Rhythm.Alerts.Redelivery
import Rhythm.Alerts.LatestEvent
import Rhythm.Elf.Compiler
import Rhythm.Elf.Governed
import Rhythm.Elf.Counting
import Rhythm.Elf.Masking
import Rhythm.Elf.RawEvidence
import Rhythm.Elf.Run
import Rhythm.Elf.Evidence
import Rhythm.Suites.WorkflowJob
import Rhythm.Suites.DeploymentQueue
import Rhythm.Suites.SuiteQueue
import Rhythm.Suites.Verdict
import Rhythm.Suites.Distribution
import Rhythm.Suites.Steps
import Rhythm.Suites.Decision
import Rhythm.Suites.Samples
import Rhythm.Suites.SampleGate
import Rhythm.Dynatrace.Rules
import Rhythm.Suites.Infrastructure
import Rhythm.Suites.InfrastructureGate
import Rhythm.Sql
import Rhythm.Suites.DeploymentEffects
import Rhythm.Suites.DeploymentSettled
import Rhythm.Monitors.Definition
import Rhythm.Monitors.Creation
import Rhythm.Monitors.Idempotency
import Rhythm.Alerts.Reconcile
import Rhythm.Alerts.Repair
import Rhythm.Alerts.OneRow
import Rhythm.Alerts.Incidents
import Rhythm.Alerts.Investigation
import Rhythm.BrowserMonitors.Queue
import Rhythm.BrowserMonitors.Effects
import Rhythm.BrowserMonitors.Finality
import Rhythm.BrowserMonitors.Health
import Rhythm.Runs.Scopes
import Rhythm.Runs.Conditions
import Rhythm.Runs.Names
import Rhythm.Runs.ScriptWrites
import Rhythm.Runs.ScriptRuns
import Rhythm.Storage.SavedRun
import Rhythm.Storage.SavedExecution
import Rhythm.Monitors.Lifecycle
import Rhythm.Monitors.Publishing
import Rhythm.Monitors.Archive
import Rhythm.Monitors.Activity
import Rhythm.ExecutionJobs.Processing
import Rhythm.Runs.Preview
import Rhythm.Elf.Clauses
import Rhythm.Glob
import Rhythm.Elf.IndexPatterns
import Rhythm.Suites.ReportFacts
import Rhythm.Suites.DeploymentProgress
import Rhythm.Storage.Recovery
import Rhythm.Totals
import Rhythm.Page
import Rhythm.Outbox
import Rhythm.ExecutionJobs.Replay
import Rhythm.ExecutionJobs.Exclusion
import Rhythm.Storage.Rollups
import Rhythm.Storage.MetricSummary
import Rhythm.Storage.CurrentHealth
import Rhythm.Agents.Capacity
import Rhythm.Suites.AlertGate
import Rhythm.Suites.AlertTriggers
import Rhythm.Alerts.Dispatchers
import Rhythm.BrowserMonitors.Artifacts
import Rhythm.Suites.CheckRun
import Rhythm.Suites.SuiteExecution
import Rhythm.Grouping
import Rhythm.Dynatrace.Query
import Rhythm.Dynatrace.Coverage
import Rhythm.Dynatrace.OwnRules
import Rhythm.Suites.ServiceCoverage
import Rhythm.Suites.StepOrder
import Rhythm.Retention.Evidence
import Rhythm.Retention.Archive
import Rhythm.Retention.MetricPoints
import Rhythm.Retention.System
import Rhythm.Retention.Durability
import Rhythm.Retention.Orphans
import Rhythm.Monitors.Updates
import Rhythm.Agents.Claiming
import Rhythm.Ranks
import Rhythm.Joined
import Rhythm.Suites.ElfGate
import Rhythm.ExecutionJobs.SkippedRuns
import Rhythm.Suites.DecisionLaws
import Rhythm.Suites.Slower
import Rhythm.Suites.DistributionLaws
import Rhythm.Dynatrace.Latest
import Rhythm.Dynatrace.RuleLaws
import Rhythm.Dynatrace.StoredRuns
import Rhythm.Alerts.Identity
import Rhythm.Alerts.Repeated
import Rhythm.Runs.ScriptEvidence
import Rhythm.Elf.MaskedDepth
import Rhythm.Elf.TimeClauses
import Rhythm.Runs.Redaction
import Rhythm.Overlap
import Rhythm.Runs.KnownValues
import Rhythm.Elf.QuerySaves
import Rhythm.Shape
import Rhythm.Runs.Decoding
import Rhythm.Runs.Executable
import Rhythm.Runs.StepLoop
import Rhythm.Runs.RunsEnd
import Rhythm.Runs.AllSteps
import Rhythm.Network.Header
import Rhythm.Runs.Retries
import Rhythm.Emitting
import Rhythm.Runs.Building
import Rhythm.Runs.RecoverySafe
import Rhythm.Suites.DeploymentPages
import Rhythm.Suites.ReportPdf
import Rhythm.Runs.Extraction
import Rhythm.Runs.ResponseTime
import Rhythm.Network.Redirects
import Rhythm.Runs.Credentials
import Rhythm.Library.Proxies
import Rhythm.Scripts.Routes
import Rhythm.Assignments
import Rhythm.Loops
import Rhythm.Runs.Actions
import Rhythm.Runs.ActionOrder
import Rhythm.Runs.ScriptRequest
import Rhythm.Runs.Unchanged
import Rhythm.Runs.Transparent
import Rhythm.JsonMask
import Rhythm.Alerts.Payload
import Rhythm.Library.Environments
import Rhythm.Library.Channels
import Rhythm.Library.Certificates
import Rhythm.Api.Search
import Rhythm.Unicode
import Rhythm.Scripts.Buffers
import Rhythm.Buckets
import Rhythm.Runs.MetricSeries
import Rhythm.Leaders
import Rhythm.Runs.Diagnostics
import Rhythm.Alerts.Columns
