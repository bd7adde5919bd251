import Mathlib
import Rhythm.Table
import Rhythm.Text
import Rhythm.Transition

/-!
# Rhythm.Scheduler.Service

The scheduler: `Configure` and `SetState` write a schedule's `next_run_at`, and
`enqueueDue`, the poll, turns due schedules into jobs and moves `next_run_at` on.
A job is deduplicated by the schedule and the second of its `next_run_at`, under
a unique index.

Times are in microseconds, the resolution of the database.  The cron library, the
known time zones and the decoding of a published definition are parameters.
-/

namespace Rhythm.Scheduler

open Text

/-! ## Times -/

/-- `time.Second`. -/
def second : Int := 1000000

/-- `t.Unix()`. -/
def unix (t : Int) : Int := t / second

/-- `time.Time{}`, which the cron library returns when it finds no activation. -/
def zeroTime : Int := -62135596800 * second

/-! ## Schedules -/

inductive ScheduleType where
  | manual | interval | cron
  deriving DecidableEq

inductive ConcurrencyPolicy where
  | skipIfRunning | queue | allow
  deriving DecidableEq

/-- The missed-run policies that the database admits. -/
inductive MissedRunPolicy where
  | skip | runOnce
  deriving DecidableEq

/-- `Config`: a row of `monitor_schedules`. -/
structure Config where
  id : String
  monitorId : String
  type : ScheduleType
  expression : String
  intervalSeconds : Int
  timezone : String
  jitterSeconds : Int
  concurrencyPolicy : ConcurrencyPolicy
  missedRunPolicy : MissedRunPolicy
  active : Bool
  nextRunAt : Option Int
  updatedAt : Int
  deriving DecidableEq

/-- A `Config` as a request gives it. -/
structure Input where
  type : String
  expression : String
  intervalSeconds : Int
  timezone : String
  jitterSeconds : Int
  concurrencyPolicy : String
  missedRunPolicy : String

def parseConcurrencyPolicy : String → Except String ConcurrencyPolicy
  | "SKIP_IF_RUNNING" => .ok .skipIfRunning
  | "QUEUE" => .ok .queue
  | "ALLOW" => .ok .allow
  | _ => .error "Concurrency policy is invalid."

def parseMissedRunPolicy : String → Except String MissedRunPolicy
  | "SKIP" => .ok .skip
  | "RUN_ONCE" => .ok .runOnce
  | _ => .error "Missed-run policy must be SKIP or RUN_ONCE."

/-! ## The next run -/

/-- The cron library and the time-zone database. -/
structure Cron where
  /-- `parser.Parse` accepts the expression. -/
  parses : String → Bool
  /-- `schedule.Next` in a time zone; `none` is the zero time. -/
  activation : String → String → Int → Option Int
  /-- `time.LoadLocation` knows the name. -/
  knowsZone : String → Bool

/-- `fnv.New32a` over a text. -/
def fnv32a (text : String) : Nat :=
  text.toUTF8.data.toList.foldl
    (fun hash byte => (hash.xor byte.toNat * 16777619) % 4294967296) 2166136261

/-- `deterministicJitter`, in seconds. -/
def deterministicJitter (scheduleId : String) (maximumSeconds : Int) : Nat :=
  if maximumSeconds ≤ 0 then 0 else fnv32a scheduleId % (maximumSeconds.toNat + 1)

namespace Cron

variable (cron : Cron)

/-- `normalizeTimezone`. -/
def normalizeTimezone (name : String) : String :=
  let name := trimSpace name
  if name = "" ∨ ¬ cron.knowsZone name then "UTC" else name

/-- `timezoneLocation`. -/
def timezoneLocation (name : String) : String :=
  if cron.knowsZone (trimSpace name) then trimSpace name else "UTC"

/-- The cron activation after a time; `none` is the zero time. -/
def nextActivation (config : Config) (after : Int) : Option Int :=
  cron.activation config.expression (cron.timezoneLocation config.timezone) after

/-- `next`. -/
def next (config : Config) (after : Int) (initial : Bool) : Except String Int :=
  match config.type with
  | .interval =>
    let next := after + config.intervalSeconds * second
    .ok (if initial then next + deterministicJitter config.id config.jitterSeconds * second
      else next)
  | .cron =>
    if cron.parses config.expression then
      .ok ((cron.nextActivation config after).getD zeroTime +
        deterministicJitter config.id config.jitterSeconds * second)
    else .error "Cron expression must contain five valid fields."
  | .manual => .error "Manual schedules have no next run."

/-- The checks of `validate` on the type. -/
def validateType (input : Input) : Except String ScheduleType :=
  match input.type with
  | "MANUAL" => .ok .manual
  | "INTERVAL" =>
    if input.intervalSeconds < 10 then .error "Interval must be at least 10 seconds."
    else .ok .interval
  | "CRON" =>
    if cron.parses input.expression then .ok .cron
    else .error "Cron expression must contain five valid fields."
  | _ => .error "Schedule type must be MANUAL, INTERVAL, or CRON."

/-- `validate`, on a normalised input: the kind of schedule and its policies. -/
def validate (input : Input) :
    Except String (ScheduleType × ConcurrencyPolicy × MissedRunPolicy) := do
  if input.jitterSeconds < 0 ∨ input.jitterSeconds > 3600 then
    throw "Jitter must be between 0 and 3,600 seconds."
  let concurrencyPolicy ← parseConcurrencyPolicy input.concurrencyPolicy
  let missedRunPolicy ← parseMissedRunPolicy input.missedRunPolicy
  let type ← cron.validateType input
  return (type, concurrencyPolicy, missedRunPolicy)

/-- The normalisation of a request; `CATCH_UP` is stored under its database name. -/
def normalize (input : Input) : Input :=
  { input with
    type := toUpper (trimSpace input.type)
    timezone := cron.normalizeTimezone input.timezone
    concurrencyPolicy :=
      if input.concurrencyPolicy = "" then "SKIP_IF_RUNNING" else input.concurrencyPolicy
    missedRunPolicy :=
      if input.missedRunPolicy = "" then "SKIP"
      else if input.missedRunPolicy = "CATCH_UP" then "RUN_ONCE" else input.missedRunPolicy }

/-- `applyRuntimeState`. -/
def applyRuntimeState (config : Config) (monitorEnabled : Bool) (now : Int) :
    Except String Config :=
  if monitorEnabled ∧ config.type ≠ .manual then
    match cron.next config now true with
    | .error message => .error message
    | .ok next => .ok { config with active := true, nextRunAt := some next }
  else .ok { config with active := false, nextRunAt := none }

end Cron

/-- The table's own check: an expression for cron schedules alone, an interval for interval
schedules alone. -/
def rowCheck (config : Config) : Bool :=
  config.intervalSeconds ≤ 2147483647 &&
    match config.type with
    | .cron => config.expression ≠ "" && config.intervalSeconds = 0
    | .interval => config.intervalSeconds > 0 && config.expression = ""
    | .manual => config.expression = "" && config.intervalSeconds = 0

/-! ## Monitors and jobs -/

inductive MonitorState where
  | draft | published | enabled | disabled | archived
  deriving DecidableEq

/-- A published revision: its stored definition is not decoded yet. -/
structure Revision (δ : Type) where
  id : String
  number : Nat
  definition : δ

structure Monitor (δ : Type) where
  id : String
  name : String
  environmentId : String
  state : MonitorState
  enabled : Bool
  deleted : Bool
  latestPublished : Option (Revision δ)

/-- `ExecutionSnapshot`. -/
structure ExecutionSnapshot (Δ : Type) where
  monitorName : String
  environmentId : String
  revisionId : String
  revisionNumber : Nat
  definition : Δ

/-- `QueueRequest`, the payload of a job. -/
structure QueueRequest (Δ : Type) where
  monitorId : String
  revisionId : String
  actorId : String
  mode : String
  triggerType : String
  scheduleId : String
  concurrencyPolicy : ConcurrencyPolicy
  deduplication : String
  queuedAt : Int
  recoverySafe : Bool
  snapshot : ExecutionSnapshot Δ

/-- A row of `execution_jobs` that the scheduler inserts. -/
structure Job (Δ : Type) where
  deduplicationKey : String
  jobType : String
  queueClass : String
  priority : Nat
  payload : QueueRequest Δ

abbrev Schedules := Table Config Config.id
abbrev Monitors (δ : Type) := Table (Monitor δ) Monitor.id

/-- The jobs, unique by their deduplication key. -/
abbrev Jobs (Δ : Type) := Table (Job Δ) Job.deduplicationKey

structure State (δ Δ : Type) where
  now : Int
  monitors : Monitors δ
  schedules : Schedules
  jobs : Jobs Δ

/-- What the service works with. -/
structure Service (δ Δ : Type) where
  cron : Cron
  /-- `json.Unmarshal` of a stored definition. -/
  decode : δ → Except String Δ
  batchSize : Nat
  batchSize_pos : 0 < batchSize
  pollInterval : Int

variable {δ Δ : Type}

/-! ## Configure and SetState -/

def scheduleOf (schedules : Schedules) (monitorId : String) : Option Config :=
  ((schedules.rows.filter fun config => config.monitorId = monitorId).insertionSort
    fun a b => b.updatedAt ≤ a.updatedAt).head?

namespace Service

variable (d : Service δ Δ)

/-- The row that `Configure` is about to write. -/
def configured (monitor : Monitor δ) (input : Input) (id : String) (now : Int) :
    Except String Config := do
  let input := d.cron.normalize input
  let (type, concurrencyPolicy, missedRunPolicy) ← d.cron.validate input
  d.cron.applyRuntimeState
    { id, monitorId := monitor.id, type, expression := input.expression,
      intervalSeconds := input.intervalSeconds, timezone := input.timezone,
      jitterSeconds := input.jitterSeconds, concurrencyPolicy, missedRunPolicy,
      active := false, nextRunAt := none, updatedAt := now }
    monitor.enabled now

/-- `Configure`: the schedule of the monitor is rewritten, or a new one is inserted under a fresh
id. -/
def configure (monitorId : String) (input : Input) (freshId : String) (s : State δ Δ) :
    Option (State δ Δ) := do
  let monitor ← s.monitors.get? monitorId
  let existing := scheduleOf s.schedules monitorId
  let config ← (d.configured monitor input ((existing.map Config.id).getD freshId) s.now).toOption
  if ¬ rowCheck config then none
  else
    match existing with
    | some old =>
      some { s with schedules := s.schedules.update (fun row => row.id = old.id) fun row =>
        { config with id := row.id, monitorId := row.monitorId } }
    | none => return { s with schedules := ← s.schedules.insert config }

end Service

/-- The schedules of a monitor as `SetState` leaves them when it disables the monitor. -/
def deactivate (monitorId : String) (now : Int) (schedules : Schedules) : Schedules :=
  schedules.update (fun config => config.monitorId = monitorId ∧ config.active) fun config =>
    { config with active := false, updatedAt := now }

/-- The schedules of a monitor as `SetState` leaves them when it enables the monitor: each but a
manual one is due at once. -/
def activate (monitorId : String) (now : Int) (schedules : Schedules) : Schedules :=
  schedules.update (fun config => config.monitorId = monitorId) fun config =>
    { config with
      active := config.type ≠ .manual
      nextRunAt := if config.type = .manual then none else some now
      updatedAt := now }

/-- `SetState`. -/
def setState (monitorId : String) (state : MonitorState) (enabled : Bool) (s : State δ Δ) :
    Option (State δ Δ) :=
  if s.monitors.any fun monitor => monitor.id = monitorId ∧ ¬ monitor.deleted then
    some
      { s with
        monitors := s.monitors.update
          (fun monitor => monitor.id = monitorId ∧ ¬ monitor.deleted) fun monitor =>
            { monitor with state, enabled }
        schedules := (if enabled then activate else deactivate) monitorId s.now s.schedules }
  else none

/-- `Enable`. -/
def enable (monitorId : String) (s : State δ Δ) : Option (State δ Δ) := do
  let monitor ← s.monitors.get? monitorId
  if monitor.latestPublished.isNone ∨ monitor.state = .archived then none
  else setState monitorId .enabled true s

/-- `Disable`. -/
def disable (monitorId : String) (s : State δ Δ) : Option (State δ Δ) := do
  let monitor ← s.monitors.get? monitorId
  if monitor.state = .archived then none else setState monitorId .disabled false s

/-! ## The poll -/

/-- `dueSchedule`, with the definition as it is stored. -/
structure DueSchedule (δ : Type) where
  config : Config
  nextRunAt : Int
  monitorName : String
  environmentId : String
  revision : Revision δ

/-- The row of the query for one schedule, when the schedule is due. -/
def dueRow (s : State δ Δ) (config : Config) : Option (DueSchedule δ) := do
  let monitor ← s.monitors.get? config.monitorId
  let revision ← monitor.latestPublished
  let nextRunAt ← config.nextRunAt
  if config.active ∧ nextRunAt ≤ s.now ∧ monitor.enabled ∧ ¬ monitor.deleted then
    some ⟨config, nextRunAt, monitor.name, monitor.environmentId, revision⟩
  else none

/-- The deduplication key of a schedule that runs at `nextRunAt`. -/
def deduplication (scheduleId : String) (nextRunAt : Int) : String :=
  "schedule:" ++ (scheduleId ++ ":" ++ toString (unix nextRunAt))

/-- What a poll does with one due schedule: the job it inserts, and the next run it sets. -/
structure Queued (Δ : Type) where
  scheduleId : String
  job : Job Δ
  next : Int

/-- Why a poll fails. -/
inductive PollError where
  | decode (message : String)
  | next (message : String)
  | conflict
  deriving DecidableEq

/-- The schedules after a poll: each enqueued one has its next run. -/
def advance (queuedAt : Int) (schedules : Schedules) (queued : List (Queued Δ)) : Schedules :=
  queued.foldl (fun schedules item =>
    schedules.update (fun config => config.id = item.scheduleId) fun config =>
      { config with nextRunAt := some item.next, updatedAt := queuedAt }) schedules

namespace Service

variable (d : Service δ Δ)

/-- The due schedules that a poll takes, those whose rows are locked elsewhere left out. -/
def dueSchedules (locked : List String) (s : State δ Δ) : List (DueSchedule δ) :=
  (((s.schedules.rows.filter fun config => config.id ∉ locked).filterMap (dueRow s)).insertionSort
    fun a b => a.nextRunAt ≤ b.nextRunAt).take d.batchSize

/-- The time from which the next run is counted: a schedule that skips missed runs starts over when
it is late. -/
def nextFrom (item : DueSchedule δ) (now : Int) : Int :=
  if item.config.missedRunPolicy = .skip ∧ now - item.nextRunAt > d.pollInterval then now
  else item.nextRunAt

def nextRun (item : DueSchedule δ) (now : Int) : Except String Int :=
  d.cron.next item.config (d.nextFrom item now)
    (item.config.missedRunPolicy = .skip ∧ now - item.nextRunAt > d.pollInterval ∧
      item.config.type = .interval)

def job (item : DueSchedule δ) (definition : Δ) (queuedAt : Int) : Job Δ :=
  let key := deduplication item.config.id item.nextRunAt
  { deduplicationKey := key
    jobType := "API_MONITOR_RUN"
    queueClass := "scheduled"
    priority := 10
    payload :=
      { monitorId := item.config.monitorId, revisionId := item.revision.id,
        actorId := item.config.id, mode := "published", triggerType := "SCHEDULED",
        scheduleId := item.config.id, concurrencyPolicy := item.config.concurrencyPolicy,
        deduplication := key, queuedAt, recoverySafe := false,
        snapshot :=
          { monitorName := item.monitorName, environmentId := item.environmentId,
            revisionId := item.revision.id, revisionNumber := item.revision.number,
            definition } } }

/-- The loop that reads the due rows: each definition is decoded. -/
def decodeItem (item : DueSchedule δ) : Except PollError (DueSchedule δ × Δ) :=
  match d.decode item.revision.definition with
  | .error message => .error (.decode message)
  | .ok definition => .ok (item, definition)

def queueItem (now : Int) (item : DueSchedule δ × Δ) : Except PollError (Queued Δ) :=
  match d.nextRun item.1 now with
  | .error message => .error (.next message)
  | .ok next => .ok ⟨item.1.config.id, job item.1 item.2 now, next⟩

/-- `enqueueDue`: one transaction for all due schedules.  It begins at `s.now`; the clock is read
again `delay` later. -/
def enqueueDue (locked : List String) (delay : Nat) (s : State δ Δ) :
    Except PollError (State δ Δ) := do
  let now := s.now + delay
  let decoded ← (d.dueSchedules locked s).mapM d.decodeItem
  let queued ← decoded.mapM (d.queueItem now)
  match s.jobs.insertAll (queued.map Queued.job) with
  | none => .error .conflict
  | some jobs => .ok { s with now, jobs, schedules := advance now s.schedules queued }

end Service

/-! ## Runs -/

inductive Action where
  | elapse (duration : Nat)
  | configure (monitorId : String) (input : Input) (freshId : String)
  | enable (monitorId : String)
  | disable (monitorId : String)
  | enqueueDue (locked : List String) (delay : Nat)

def step (d : Service δ Δ) (s : State δ Δ) : Action → Option (State δ Δ)
  | .elapse duration => some { s with now := s.now + duration }
  | .configure monitorId input freshId => d.configure monitorId input freshId s
  | .enable monitorId => enable monitorId s
  | .disable monitorId => disable monitorId s
  | .enqueueDue locked delay =>
    match d.enqueueDue locked delay s with
    | .error _ => some { s with now := s.now + delay }
    | .ok s' => some s'

end Rhythm.Scheduler
