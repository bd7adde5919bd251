import Rhythm.Monitors.Creation
import Rhythm.Scheduler.Service

/-!
# Rhythm.Monitors.Lifecycle

The calls that move one monitor through its life: `SaveDraft`, `RestoreRevision`, `Publish`,
`Enable`, `Disable`, `Archive` and `Restore`, and the scheduler's `Configure`.  Each reads in one
statement and writes in another, so that concurrent calls interleave between their statements.

`SaveDraft` reads nothing, and its transaction is one step.  A call whose check or whose
transaction fails ends; a call may also end before its next statement, when its request is
cancelled.
-/

namespace Rhythm.Monitors.Lifecycle

open Scheduler (MonitorState Config Schedules Cron rowCheck scheduleOf activate deactivate)

/-! ## The monitor -/

/-- The columns of `monitors` that these calls check and write. -/
structure Monitor where
  state : MonitorState
  enabled : Bool
  currentDraftRevisionId : RevisionId
  latestPublishedRevisionId : Option RevisionId
  deriving DecidableEq

/-- Where monitors are kept. -/
inductive Repository where
  | postgres | memory
  deriving DecidableEq

/-- What the calls work with, for one monitor. -/
structure Service where
  library : Library
  cron : Cron
  repository : Repository
  monitorID : String

/-! ## Calls -/

inductive Operation where
  | publish
  | restoreRevision (revisionID : RevisionId)
  | enable | disable | archive | restore
  | configure (input : Scheduler.Input)

/-- `Get` comes first, and this check of what it answers. -/
def Operation.allows : Operation → Monitor → Bool
  | .publish, monitor | .disable, monitor => monitor.state ≠ .archived
  | .enable, monitor => monitor.latestPublishedRevisionId.isSome ∧ monitor.state ≠ .archived
  | .restore, monitor => monitor.state = .archived
  | .configure _, _ => true
  | .archive, _ | .restoreRevision _, _ => false

/-- The state and the flag that the call writes; only `Restore` looks at the monitor it has read. -/
def Operation.target : Operation → Option Monitor → Option (MonitorState × Bool)
  | .enable, some _ => some (.enabled, true)
  | .disable, some _ => some (.disabled, false)
  | .archive, none => some (.archived, false)
  | .restore, some monitor =>
    some (if monitor.latestPublishedRevisionId.isSome then .disabled else .draft, false)
  | _, _ => none

/-- How far a call is. -/
inductive Stage where
  | started
  /-- `Get` has answered, and the check has passed. -/
  | read (monitor : Monitor)
  /-- `GetRevision` has answered. -/
  | loaded (revision : Revision)
  /-- `Configure` has looked up the schedule. -/
  | found (enabled : Bool) (existing : Option Config)
  /-- `SetState` has written the monitor, but not yet its schedules. -/
  | written (enabled : Bool)
  | done

def Stage.wrote : Stage → Bool
  | .written _ | .done => true
  | _ => false

def Stage.monitor? : Stage → Option Monitor
  | .read monitor => some monitor
  | _ => none

def Stage.revision? : Stage → Option Revision
  | .loaded revision => some revision
  | _ => none

structure Call where
  id : CallId
  operation : Operation
  stage : Stage

structure State where
  monitor : Monitor
  revisions : List Revision
  schedules : Schedules
  calls : Table Call Call.id

def created (draft : Revision) : State where
  monitor := ⟨.draft, false, draft.id, none⟩
  revisions := [{ draft with status := .draft }]
  schedules := .empty
  calls := .empty

def State.settle (s : State) (callID : CallId) : Option Stage → State
  | some stage =>
    { s with calls := s.calls.update (fun c => c.id = callID) fun c => { c with stage := stage } }
  | none => { s with calls := s.calls.deleteWhere fun c => c.id = callID }

/-! ## Transactions -/

def IsDraft (monitor : Monitor) (row : Revision) : Prop :=
  row.id = monitor.currentDraftRevisionId ∧ row.status = .draft

instance (monitor : Monitor) : DecidablePred (IsDraft monitor) :=
  fun _ => inferInstanceAs (Decidable (_ ∧ _))

/-- `UpdateDraft`: the definition of the current draft is replaced. -/
def updateDraft (definition : Definition) (s : State) : Option State :=
  if ∃ row ∈ s.revisions, IsDraft s.monitor row then
    some { s with
      revisions := s.revisions.map fun row =>
        if IsDraft s.monitor row then { row with definition := definition } else row }
  else none

def nextDraft (nextID : RevisionId) (published : Revision) : Revision :=
  ⟨nextID, published.monitorId, published.revisionNumber + 1, .draft, published.definition⟩

def publishedState (repository : Repository) (monitor : Monitor) : MonitorState :=
  if monitor.enabled then
    match repository with
    | .postgres => .enabled
    | .memory => monitor.state
  else .published

/-- The draft as a repository freezes it: one marks the row that it holds, the other replaces it by
the copy that the call has read. -/
def freeze (repository : Repository) (published row : Revision) : Revision :=
  match repository with
  | .postgres => { row with status := .published }
  | .memory => { published with status := .published }

/-- **`Publish` of a repository**, with the revision that the call has read. -/
def publish (repository : Repository) (published : Revision) (nextID : RevisionId) (s : State) :
    Option State :=
  if (repository = .postgres → s.monitor.currentDraftRevisionId = published.id) ∧
      ∃ row ∈ s.revisions, IsDraft s.monitor row then
    some { s with
      monitor :=
        { state := publishedState repository s.monitor
          enabled := s.monitor.enabled
          currentDraftRevisionId := nextID
          latestPublishedRevisionId := some published.id }
      revisions := (s.revisions.map fun row =>
        if IsDraft s.monitor row then freeze repository published row else row) ++
          [nextDraft nextID published] }
  else none

/-- The row that `Configure` is about to write. -/
def configured (cron : Cron) (monitorID : String) (enabled : Bool) (input : Scheduler.Input)
    (id : String) (now : Int) : Except String Config := do
  let input := cron.normalize input
  let (type, concurrencyPolicy, missedRunPolicy) ← cron.validate input
  cron.applyRuntimeState
    { id, monitorId := monitorID, type, expression := input.expression,
      intervalSeconds := input.intervalSeconds, timezone := input.timezone,
      jitterSeconds := input.jitterSeconds, concurrencyPolicy, missedRunPolicy,
      active := false, nextRunAt := none, updatedAt := now }
    enabled now

theorem configured_eq {δ Δ : Type} (d : Scheduler.Service δ Δ) (monitor : Scheduler.Monitor δ)
    (input : Scheduler.Input) (id : String) (now : Int) :
    d.configured monitor input id now =
      configured d.cron monitor.id monitor.enabled input id now := rfl

/-- `monitor_schedules_one_active_idx`: a statement that would leave two active schedules fails. -/
def OneActive (schedules : Schedules) : Prop :=
  (schedules.rows.filter Config.active).length ≤ 1

instance (schedules : Schedules) : Decidable (OneActive schedules) :=
  inferInstanceAs (Decidable (_ ≤ _))

theorem keepsKey_configure (config : Config) : Table.KeepsKey Config.id fun row : Config =>
    { config with id := row.id, monitorId := row.monitorId } :=
  ⟨fun _ => rfl⟩

/-- The schedules after the statement of `Configure`. -/
def saveSchedule (existing : Option Config) (config : Config) (schedules : Schedules) :
    Option Schedules :=
  match existing with
  | some old =>
    some (schedules.update (fun row => row.id = old.id)
      (fun row => { config with id := row.id, monitorId := row.monitorId })
      (keepsKey_configure config))
  | none => schedules.insert config

/-- One statement or transaction of a call, with what it draws or reads of the clock. -/
inductive Statement where
  | getMonitor
  | getRevision
  | findSchedule
  | restoreRevision
  | publish (nextID : RevisionId)
  | setState
  | writeSchedules (now : Int)
  | configure (freshID : String) (now : Int)
  | return
  | abandon

inductive Action where
  | saveDraft (definition : Definition)
  | begin (callID : CallId) (operation : Operation)
  | call (callID : CallId) (statement : Statement)

def Call.revisionID? (call : Call) : Option RevisionId :=
  match call.operation, call.stage with
  | .publish, .read monitor => some monitor.currentDraftRevisionId
  | .restoreRevision revisionID, .started => some revisionID
  | _, _ => none

/-- The call may write this revision: what `Publish` freezes is valid. -/
def Call.accepts (d : Service) (call : Call) (revision : Revision) : Bool :=
  match call.operation with
  | .publish => validateDefinition d.library revision.definition = []
  | _ => true

def Service.written (d : Service) (enabled : Bool) : Stage :=
  match d.repository with
  | .postgres => .written enabled
  | .memory => .done

/-- A transaction: the call is done when it commits, and ends when it does not. -/
def attempt (s : State) (committed : Option State) : State × Option Stage :=
  match committed with
  | some s' => (s', some .done)
  | none => (s, none)

/-- **One statement of a call**: the tables after it, and where the call goes on, if it does. -/
def perform (d : Service) (s : State) (call : Call) : Statement → Option (State × Option Stage)
  | .getMonitor =>
    match call.operation, call.stage with
    | .archive, _ | .restoreRevision _, _ => none
    | operation, .started =>
      some (s, if operation.allows s.monitor then some (.read s.monitor) else none)
    | _, _ => none
  | .getRevision =>
    call.revisionID?.map fun revisionID =>
      (s, ((s.revisions.find? fun row => row.id = revisionID).filter
        (call.accepts d)).map .loaded)
  | .findSchedule =>
    match call.operation, call.stage with
    | .configure _, .read monitor =>
      some (s, some (.found monitor.enabled (scheduleOf s.schedules d.monitorID)))
    | _, _ => none
  | .restoreRevision =>
    match call.operation, call.stage with
    | .restoreRevision _, .loaded revision => some (attempt s (updateDraft revision.definition s))
    | _, _ => none
  | .publish nextID =>
    match call.operation, call.stage with
    | .publish, .loaded published =>
      if nextID ∈ s.revisions.map Revision.id then none
      else some (attempt s (publish d.repository published nextID s))
    | _, _ => none
  | .setState =>
    match call.stage with
    | .started | .read _ =>
      (call.operation.target call.stage.monitor?).map fun (state, enabled) =>
        ({ s with monitor := { s.monitor with state, enabled } }, some (d.written enabled))
    | _ => none
  | .writeSchedules now =>
    match call.stage with
    | .written enabled =>
      let schedules := (if enabled then activate else deactivate) d.monitorID now s.schedules
      some (attempt s (if OneActive schedules then some { s with schedules } else none))
    | _ => none
  | .configure freshID now =>
    match call.operation, call.stage with
    | .configure input, .found enabled existing =>
      let row := configured d.cron d.monitorID enabled input
        ((existing.map Config.id).getD freshID) now
      let saved := row.toOption.bind fun config =>
        if rowCheck config then saveSchedule existing config s.schedules else none
      some (attempt s (saved.bind fun schedules =>
        if OneActive schedules then some { s with schedules } else none))
    | _, _ => none
  | .return =>
    match call.stage with
    | .done => some (s, none)
    | _ => none
  | .abandon => some (s, none)

/-- **One step of the calls on a monitor.** -/
def step (d : Service) (s : State) : Action → Option State
  | .saveDraft definition =>
    if validateDefinition d.library definition = [] then
      updateDraft (normalizeScriptEnabledFlags definition) s
    else none
  | .begin callID operation =>
    (s.calls.insert ⟨callID, operation, .started⟩).map fun calls => { s with calls }
  | .call callID statement =>
    match s.calls.get? callID with
    | none => none
    | some call =>
      (perform d s call statement).map fun (s', stage) => s'.settle callID stage

/-! ## What a statement can do -/

def Fails (d : Service) (s : State) (revision : Revision) : Statement → Prop
  | .restoreRevision => updateDraft revision.definition s = none
  | .publish nextID => publish d.repository revision nextID s = none
  | _ => True

/-- What a call may have read when it goes on at the stage. -/
def Answers (d : Service) (s : State) (call : Call) : Stage → Prop
  | .read monitor => monitor = s.monitor ∧ call.operation.allows s.monitor = true
  | .loaded revision => call.accepts d revision = true
  | .found _ _ => True
  | .started | .written _ | .done => False

/-- What a statement of a call does to the tables, and where the call goes on.  `answered` is a
read, a check or a transaction that failed, or the end of the call. -/
inductive Effect (d : Service) (s : State) (call : Call) :
    Statement → State → Option Stage → Prop
  | answered {statement : Statement} {stage : Option Stage}
      (hanswers : ∀ next ∈ stage, Answers d s call next)
      (hfails : ∀ revision ∈ call.stage.revision?, Fails d s revision statement) :
      Effect d s call statement s stage
  | restored {revisionID : RevisionId} {revision : Revision} {t : State}
      (hoperation : call.operation = .restoreRevision revisionID)
      (hstage : call.stage = .loaded revision)
      (hupdate : updateDraft revision.definition s = some t) :
      Effect d s call .restoreRevision t (some .done)
  | published {revision : Revision} {nextID : RevisionId} {t : State}
      (hoperation : call.operation = .publish) (hstage : call.stage = .loaded revision)
      (hfresh : nextID ∉ s.revisions.map Revision.id)
      (hpublish : publish d.repository revision nextID s = some t) :
      Effect d s call (.publish nextID) t (some .done)
  | stateSet {state : MonitorState} {enabled : Bool}
      (hstage : call.stage.wrote = false)
      (htarget : call.operation.target call.stage.monitor? = some (state, enabled)) :
      Effect d s call .setState { s with monitor := { s.monitor with state, enabled } }
        (some (d.written enabled))
  | schedulesWritten {enabled : Bool} {now : Int} {schedules : Schedules}
      (hstage : call.stage = .written enabled)
      (hschedules : schedules =
        (if enabled then activate else deactivate) d.monitorID now s.schedules)
      (hactive : OneActive schedules) :
      Effect d s call (.writeSchedules now) { s with schedules } (some .done)
  | configured {input : Scheduler.Input} {enabled : Bool} {existing : Option Config}
      {freshID : String} {now : Int} {config : Config} {schedules : Schedules}
      (hoperation : call.operation = .configure input)
      (hstage : call.stage = .found enabled existing)
      (hconfig : configured d.cron d.monitorID enabled input
        ((existing.map Config.id).getD freshID) now = .ok config)
      (hsaved : saveSchedule existing config s.schedules = some schedules)
      (hactive : OneActive schedules) :
      Effect d s call (.configure freshID now) { s with schedules } (some .done)

theorem Answers.wrote {d : Service} {s : State} {call : Call} {next : Stage}
    (h : Answers d s call next) : next.wrote = false := by
  cases next with
  | written enabled | done => contradiction
  | _ => rfl

section Statements

variable {d : Service} {s s' t : State} {call : Call} {stage : Option Stage}
  {statement : Statement}

variable {callID : CallId}

theorem step_call (h : step d s (.call callID statement) = some s') :
    ∃ call t stage, s.calls.get? callID = some call ∧
      perform d s call statement = some (t, stage) ∧ s' = t.settle callID stage := by
  rw [step] at h
  split at h
  · contradiction
  · rename_i call hcall
    obtain ⟨⟨t, stage⟩, hperform, rfl⟩ := Option.map_eq_some_iff.mp h
    exact ⟨call, t, stage, hcall, hperform, rfl⟩

@[simp] theorem settle_monitor (callID : CallId) : (s.settle callID stage).monitor = s.monitor := by
  cases stage <;> rfl

@[simp] theorem settle_revisions (callID : CallId) :
    (s.settle callID stage).revisions = s.revisions := by
  cases stage <;> rfl

@[simp] theorem settle_schedules (callID : CallId) :
    (s.settle callID stage).schedules = s.schedules := by
  cases stage <;> rfl

@[simp] theorem revision?_written (enabled : Bool) : (d.written enabled).revision? = none := by
  unfold Service.written
  split <;> rfl

@[simp] theorem wrote_written (enabled : Bool) : (d.written enabled).wrote = true := by
  unfold Service.written
  split <;> rfl

theorem attempt_cases {committed : Option State} (h : attempt s committed = (t, stage)) :
    (committed = some t ∧ stage = some .done) ∨ (committed = none ∧ t = s ∧ stage = none) := by
  cases committed with
  | none =>
    cases h
    exact .inr ⟨rfl, rfl, rfl⟩
  | some s' =>
    cases h
    exact .inl ⟨rfl, rfl⟩

theorem calls_updateDraft {definition : Definition} (h : updateDraft definition s = some t) :
    t.calls = s.calls := by
  rw [updateDraft, guarded_eq_some_iff] at h
  rw [← h.2]

theorem monitor_updateDraft {definition : Definition} (h : updateDraft definition s = some t) :
    t.monitor = s.monitor := by
  rw [updateDraft, guarded_eq_some_iff] at h
  rw [← h.2]

theorem monitor_publish {published : Revision} {nextID : RevisionId} {repository : Repository}
    (h : publish repository published nextID s = some t) :
    t.monitor = ⟨publishedState repository s.monitor, s.monitor.enabled, nextID,
      some published.id⟩ := by
  rw [publish, guarded_eq_some_iff] at h
  rw [← h.2]

theorem calls_publish {published : Revision} {nextID : RevisionId} {repository : Repository}
    (h : publish repository published nextID s = some t) : t.calls = s.calls := by
  rw [publish, guarded_eq_some_iff] at h
  rw [← h.2]

theorem effect_ended (hfails : ∀ revision ∈ call.stage.revision?, Fails d s revision statement) :
    Effect d s call statement s none :=
  .answered (by simp) hfails

/-- **Every statement has one of the effects.** -/
theorem effect_of_perform (h : perform d s call statement = some (t, stage)) :
    Effect d s call statement t stage := by
  cases statement with
  | getMonitor =>
    simp only [perform] at h
    split at h <;> try contradiction
    rw [Option.some.injEq, Prod.mk.injEq] at h
    obtain ⟨rfl, rfl⟩ := h
    refine .answered (fun next hnext => ?_) fun _ _ => trivial
    split at hnext
    · rename_i hallows
      cases hnext
      exact ⟨rfl, hallows⟩
    · contradiction
  | getRevision =>
    obtain ⟨revisionID, -, hread⟩ := Option.map_eq_some_iff.mp h
    rw [Prod.mk.injEq] at hread
    obtain ⟨rfl, rfl⟩ := hread
    refine .answered (fun next hnext => ?_) fun _ _ => trivial
    obtain ⟨revision, haccepts, rfl⟩ := Option.map_eq_some_iff.mp hnext
    exact (Option.filter_eq_some_iff.mp haccepts).2
  | findSchedule =>
    simp only [perform] at h
    split at h <;> try contradiction
    cases h
    refine .answered (fun next hnext => ?_) fun _ _ => trivial
    cases hnext
    trivial
  | restoreRevision =>
    simp only [perform] at h
    split at h <;> try contradiction
    rename_i hoperation hstage
    obtain ⟨hupdate, rfl⟩ | ⟨hfails, rfl, rfl⟩ := attempt_cases (Option.some.inj h)
    · exact .restored hoperation hstage hupdate
    · refine effect_ended fun revision hrevision => ?_
      rw [hstage] at hrevision
      cases hrevision
      exact hfails
  | publish nextID =>
    simp only [perform] at h
    split at h <;> try contradiction
    rename_i hoperation hstage
    rw [Option.ite_none_left_eq_some] at h
    obtain ⟨hfresh, h⟩ := h
    obtain ⟨hpublish, rfl⟩ | ⟨hfails, rfl, rfl⟩ := attempt_cases (Option.some.inj h)
    · exact .published hoperation hstage hfresh hpublish
    · refine effect_ended fun revision hrevision => ?_
      rw [hstage] at hrevision
      cases hrevision
      exact hfails
  | setState =>
    have hset : ∀ (hstage : call.stage.wrote = false), (call.operation.target
        call.stage.monitor?).map (fun x => ({ s with monitor := { s.monitor with
          state := x.1, enabled := x.2 } }, some (d.written x.2))) = some (t, stage) →
        Effect d s call .setState t stage := by
      intro hstage hmap
      obtain ⟨⟨state, enabled⟩, htarget, hread⟩ := Option.map_eq_some_iff.mp hmap
      rw [Prod.mk.injEq] at hread
      obtain ⟨rfl, rfl⟩ := hread
      exact .stateSet hstage htarget
    simp only [perform] at h
    split at h <;> try contradiction
    · rename_i hstage
      exact hset (by rw [hstage]; rfl) h
    · rename_i hstage
      exact hset (by rw [hstage]; rfl) h
  | writeSchedules now =>
    simp only [perform] at h
    split at h <;> try contradiction
    rename_i hstage
    obtain ⟨hwrite, rfl⟩ | ⟨-, rfl, rfl⟩ := attempt_cases (Option.some.inj h)
    · rw [guarded_eq_some_iff] at hwrite
      obtain ⟨hactive, rfl⟩ := hwrite
      exact .schedulesWritten hstage rfl hactive
    · exact effect_ended fun _ _ => trivial
  | configure freshID now =>
    simp only [perform] at h
    split at h <;> try contradiction
    rename_i hoperation hstage
    obtain ⟨hsave, rfl⟩ | ⟨-, rfl, rfl⟩ := attempt_cases (Option.some.inj h)
    · simp only [Option.bind_eq_some_iff, Option.ite_none_right_eq_some, Option.some.injEq] at hsave
      obtain ⟨schedules, ⟨config, hrow, -, hsaved⟩, hactive, rfl⟩ := hsave
      refine .configured hoperation hstage ?_ hsaved hactive
      revert hrow
      cases configured d.cron d.monitorID _ _ _ _ with
      | error message => exact nofun
      | ok row => exact fun hrow => congrArg Except.ok (Option.some.inj hrow)
    · exact effect_ended fun _ _ => trivial
  | «return» =>
    simp only [perform] at h
    split at h <;> try contradiction
    cases h
    exact effect_ended fun _ _ => trivial
  | abandon =>
    cases h
    exact effect_ended fun _ _ => trivial

theorem Effect.calls_eq (h : Effect d s call statement t stage) : t.calls = s.calls := by
  cases h with
  | restored _ _ hupdate => exact calls_updateDraft hupdate
  | published _ _ _ hpublish => exact calls_publish hpublish
  | _ => rfl

theorem mem_settle {c : Call} (hcall : s.calls.get? callID = some call)
    (h : c ∈ (s.settle callID stage).calls) :
    (c ∈ s.calls ∧ c.id ≠ callID) ∨ ∃ next ∈ stage, c = { call with stage := next } := by
  cases stage with
  | none =>
    obtain ⟨hmem, hid⟩ := List.mem_filter.mp h
    exact .inl ⟨hmem, by simpa using hid⟩
  | some next =>
    simp only [State.settle, Table.mem_update] at h
    obtain ⟨old, hold, rfl⟩ := h
    by_cases hid : old.id = callID
    · rw [if_pos hid]
      have hsame := Table.get?_of_mem hold
      rw [hid, hcall, Option.some.injEq] at hsame
      exact .inr ⟨next, rfl, by rw [hsame]⟩
    · rw [if_neg hid]
      exact .inl ⟨hold, hid⟩

theorem step_begin {operation : Operation} (h : step d s (.begin callID operation) = some s') :
    ∃ calls, s.calls.insert ⟨callID, operation, .started⟩ = some calls ∧
      s' = { s with calls } := by
  obtain ⟨calls, hinsert, rfl⟩ := Option.map_eq_some_iff.mp h
  exact ⟨calls, hinsert, rfl⟩

end Statements

end Rhythm.Monitors.Lifecycle
