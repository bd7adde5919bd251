import Rhythm.Fallible
import Rhythm.Monitors.Lifecycle

/-!
# Rhythm.Monitors.Activity

Does the schedule follow the monitor?  `SetState` writes the monitor and then its schedules, and
`Configure` reads the flag of the monitor, looks up the schedule and then writes it.  A flag that
was read before another call has changed it is written after it.

`follows_along` says that this, and a call that ends between its two statements, are all that can
go wrong.  The scheduler runs over PostgreSQL only.
-/

namespace Rhythm.Monitors.Lifecycle

open Fallible
open Scheduler (Config Schedules Cron scheduleOf activate deactivate)

/-- The schedule is active with a next run exactly when the monitor is enabled and the schedule is
not a manual one. -/
def Follows (enabled : Bool) (config : Config) : Prop :=
  (config.active = true ∧ config.nextRunAt.isSome = true) ↔
    (enabled = true ∧ config.type ≠ .manual)

instance (enabled : Bool) (config : Config) : Decidable (Follows enabled config) :=
  inferInstanceAs (Decidable (_ ↔ _))

/-- While no call is in progress, the stored schedule follows the monitor. -/
def ActivityFollows (d : Service) (s : State) : Prop :=
  s.calls.rows = [] → ∀ config ∈ scheduleOf s.schedules d.monitorID,
    Follows s.monitor.enabled config

instance (d : Service) (s : State) : Decidable (ActivityFollows d s) :=
  have : Decidable (∀ config ∈ scheduleOf s.schedules d.monitorID,
      Follows s.monitor.enabled config) :=
    match scheduleOf s.schedules d.monitorID with
    | none => isTrue nofun
    | some config => decidable_of_iff (Follows s.monitor.enabled config) (by simp)
  if h : s.calls.rows = [] then
    decidable_of_iff (∀ config ∈ scheduleOf s.schedules d.monitorID,
      Follows s.monitor.enabled config) ⟨fun hall _ => hall, fun hall => hall h⟩
  else isTrue fun hnil => absurd hnil h

/-- The flag that a call has written to the monitor, and is about to write to its schedules. -/
def Stage.pending? : Stage → Option Bool
  | .written enabled => some enabled
  | _ => none

def Followed (d : Service) (s : State) : Prop :=
  ∀ config ∈ s.schedules, config.monitorId = d.monitorID → Follows s.monitor.enabled config

/-- Another call has written the flag of the monitor, and is about to write its schedules. -/
def Covered (s : State) (callID : CallId) : Prop :=
  ∃ other ∈ s.calls, other.id ≠ callID ∧ other.stage.pending? = some s.monitor.enabled

/-- The schedules as the second statement of `SetState` leaves them. -/
def Service.setSchedules (d : Service) (enabled : Bool) (now : Int) (schedules : Schedules) :
    Schedules :=
  (if enabled then activate else deactivate) d.monitorID now schedules

instance (d : Service) (s : State) : Decidable (Followed d s) :=
  inferInstanceAs (Decidable (∀ config ∈ s.schedules, _ → _))

instance (s : State) (callID : CallId) : Decidable (Covered s callID) :=
  inferInstanceAs (Decidable (∃ other ∈ s.calls, _))

/-- A call that is about to write the schedules for the flag ends without it. -/
def MayEnd (d : Service) (s : State) (enabled : Bool) : Prop :=
  enabled = s.monitor.enabled → Followed d s

instance (d : Service) (s : State) (enabled : Bool) : Decidable (MayEnd d s enabled) :=
  inferInstanceAs (Decidable (_ → _))

/-- A flag is written to the schedules that the monitor still has; or it makes no difference to
them. -/
def MaySet (d : Service) (s : State) (enabled : Bool) (now : Int) : Prop :=
  if OneActive (d.setSchedules enabled now s.schedules) then
    enabled = s.monitor.enabled ∨
      ∀ config ∈ s.schedules, config.monitorId = d.monitorID → config.type = .manual
  else MayEnd d s enabled

instance (d : Service) (s : State) (enabled : Bool) (now : Int) :
    Decidable (MaySet d s enabled now) := by
  unfold MaySet
  infer_instance

/-- `Configure` writes the flag that the monitor still has; or it makes no difference. -/
def MayConfigure (d : Service) (s : State) : Operation → Stage → Prop
  | .configure input, .found enabled _ =>
    enabled = s.monitor.enabled ∨ (d.cron.normalize input).type = "MANUAL"
  | _, _ => True

instance (d : Service) (s : State) (operation : Operation) (stage : Stage) :
    Decidable (MayConfigure d s operation stage) := by
  unfold MayConfigure
  split <;> infer_instance

def MayStep (d : Service) (s : State) (call : Call) : Statement → Prop
  | .writeSchedules now => ∀ enabled ∈ call.stage.pending?, MaySet d s enabled now
  | .abandon => ∀ enabled ∈ call.stage.pending?, MayEnd d s enabled
  | .configure _ _ => MayConfigure d s call.operation call.stage
  | _ => True

instance (d : Service) (s : State) (call : Call) : ∀ statement,
    Decidable (MayStep d s call statement)
  | .writeSchedules now =>
    inferInstanceAs (Decidable (∀ enabled ∈ call.stage.pending?, MaySet d s enabled now))
  | .abandon => inferInstanceAs (Decidable (∀ enabled ∈ call.stage.pending?, MayEnd d s enabled))
  | .configure _ _ => inferInstanceAs (Decidable (MayConfigure d s call.operation call.stage))
  | .getMonitor | .getRevision | .findSchedule | .restoreRevision | .publish _ | .setState
  | .return => isTrue trivial

/-- **The condition on a step.**  Unless another call is about to write the schedules for the flag
of the monitor: a flag is written to the schedules only while the monitor has it, and a call does
not end between its two statements. -/
def WritesCurrent (d : Service) (s : State) (a : Action) (_ : State) : Prop :=
  match a with
  | .call callID statement => ∀ call ∈ s.calls, call.id = callID →
    Covered s callID ∨ MayStep d s call statement
  | _ => True

instance (d : Service) : ∀ s a s', Decidable (WritesCurrent d s a s')
  | s, .call callID statement, _ => inferInstanceAs (Decidable (∀ call ∈ s.calls,
      call.id = callID → Covered s callID ∨ MayStep d s call statement))
  | _, .saveDraft _, _ | _, .begin _ _, _ => isTrue trivial

/-- The schedules follow the monitor, or a call is about to write them for its flag. -/
def Tracked (d : Service) (s : State) : Prop :=
  Followed d s ∨ ∃ call ∈ s.calls, call.stage.pending? = some s.monitor.enabled

section Step

variable {d : Service} {s s' t : State} {call : Call} {stage : Option Stage}
  {statement : Statement} {callID : CallId}

theorem tracked_created (draft : Revision) : Tracked d (created draft) :=
  .inl fun config hconfig => absurd hconfig (Table.not_mem_empty config)

variable {config : Config} {schedules : Schedules}

theorem scheduleOf_mem {monitorID : String} (h : scheduleOf schedules monitorID = some config) :
    config ∈ schedules ∧ config.monitorId = monitorID := by
  have hmem := List.mem_of_head? h
  rw [List.mem_insertionSort, List.mem_filter] at hmem
  exact ⟨hmem.1, of_decide_eq_true hmem.2⟩

theorem Tracked.activityFollows (h : Tracked d s) : ActivityFollows d s := by
  intro hcalls config hconfig
  obtain hfollowed | ⟨c, hc, -⟩ := h
  · obtain ⟨hmem, hmonitor⟩ := scheduleOf_mem hconfig
    exact hfollowed config hmem hmonitor
  · have hc : c ∈ s.calls.rows := hc
    rw [hcalls] at hc
    contradiction

theorem mem_settle_self {next : Stage} (hcall : s.calls.get? callID = some call) :
    { call with stage := next } ∈ (s.settle callID (some next)).calls := by
  rw [State.settle, Table.mem_update]
  exact ⟨call, Table.mem_of_get? hcall, if_pos (Table.key_of_get? hcall)⟩

theorem mem_settle_of_ne {c : Call} (hc : c ∈ s.calls) (hne : c.id ≠ callID) :
    c ∈ (s.settle callID stage).calls := by
  cases stage with
  | none => exact List.mem_filter.mpr ⟨hc, by simpa using hne⟩
  | some next =>
    rw [State.settle, Table.mem_update]
    exact ⟨c, hc, if_neg hne⟩

theorem Covered.settle (h : Covered s callID) (hcalls : t.calls = s.calls)
    (henabled : t.monitor.enabled = s.monitor.enabled) : Tracked d (t.settle callID stage) := by
  obtain ⟨other, hother, hne, hpending⟩ := h
  refine .inr ⟨other, mem_settle_of_ne (hcalls ▸ hother) hne, ?_⟩
  rw [settle_monitor, henabled]
  exact hpending

theorem Followed.settle (h : Followed d s) (hschedules : t.schedules = s.schedules)
    (henabled : t.monitor.enabled = s.monitor.enabled) : Tracked d (t.settle callID stage) := by
  refine .inl ?_
  rw [Followed, settle_schedules, settle_monitor, hschedules, henabled]
  exact h

theorem Tracked.followed_or_pending (h : Tracked d s) (hcall : s.calls.get? callID = some call)
    (hcovered : ¬ Covered s callID) :
    Followed d s ∨ call.stage.pending? = some s.monitor.enabled := by
  obtain hfollowed | ⟨c, hc, hpending⟩ := h
  · exact .inl hfollowed
  · by_cases hid : c.id = callID
    · have hsame := Table.get?_of_mem hc
      rw [hid, hcall, Option.some.injEq] at hsame
      exact .inr (hsame ▸ hpending)
    · exact absurd ⟨c, hc, hid, hpending⟩ hcovered

theorem perform_pending {enabled : Bool} (hstage : call.stage = .written enabled)
    (h : perform d s call statement = some (t, stage)) :
    (statement = .abandon ∧ t = s) ∨ ∃ now, statement = .writeSchedules now ∧
      t = if OneActive (d.setSchedules enabled now s.schedules) then
        { s with schedules := d.setSchedules enabled now s.schedules } else s := by
  obtain ⟨id, operation, current⟩ := call
  obtain rfl : current = .written enabled := hstage
  cases statement with
  | abandon =>
    cases h
    exact .inl ⟨rfl, rfl⟩
  | writeSchedules now =>
    refine .inr ⟨now, rfl, ?_⟩
    rw [perform, Option.some.injEq] at h
    obtain ⟨hcommit, -⟩ | ⟨hfails, rfl, -⟩ := attempt_cases h
    · rw [guarded_eq_some_iff] at hcommit
      exact hcommit.2.symm.trans (if_pos hcommit.1).symm
    · refine (if_neg fun hactive => ?_).symm
      have hnone := (if_pos hactive).symm.trans hfails
      cases hnone
  | _ => cases operation <;> simp [perform, Call.revisionID?] at h

theorem follows_inactive {current : Bool} (hactive : config.active = false)
    (h : current = false ∨ config.type = .manual) : Follows current config := by
  rw [Follows, hactive]
  obtain hcurrent | hmanual := h
  · simp [hcurrent]
  · simp [hmanual]

variable {enabled current : Bool}

theorem follows_setSchedules {now : Int} (hconfig : config ∈ d.setSchedules enabled now schedules)
    (hmonitor : config.monitorId = d.monitorID)
    (h : enabled = current ∨ ∀ config ∈ schedules, config.monitorId = d.monitorID →
      config.type = .manual) :
    Follows current config := by
  cases enabled with
  | false =>
    rw [Service.setSchedules, if_neg Bool.false_ne_true, deactivate] at hconfig
    obtain ⟨old, hold, rfl⟩ := Table.mem_update.mp hconfig
    have hsame : old.monitorId = d.monitorID := by
      split at hmonitor <;> exact hmonitor
    refine follows_inactive ?_ ?_
    · split
      · rfl
      · rename_i hactive
        exact Bool.eq_false_iff.mpr fun htrue => hactive ⟨hsame, htrue⟩
    · refine h.imp Eq.symm fun hmanual => ?_
      split <;> exact hmanual old hold hsame
  | true =>
    rw [Service.setSchedules, if_pos rfl, activate] at hconfig
    obtain ⟨old, hold, rfl⟩ := Table.mem_update.mp hconfig
    have hsame : old.monitorId = d.monitorID := by
      split at hmonitor <;> exact hmonitor
    rw [if_pos hsame]
    by_cases hmanual : old.type = .manual
    · exact follows_inactive (by simp [hmanual]) (.inr hmanual)
    · obtain rfl | hall := h
      · simp [Follows, hmanual]
      · exact absurd (hall old hold hsame) hmanual

variable {input : Scheduler.Input} {cron : Cron}

theorem type_manual {type : Scheduler.ScheduleType}
    (h : cron.validateType input = .ok type) (hmanual : input.type = "MANUAL") :
    type = .manual := by
  rw [Cron.validateType, hmanual] at h
  exact (Except.ok.inj h).symm

theorem type_of_validate
    {checked : Scheduler.ScheduleType × Scheduler.ConcurrencyPolicy × Scheduler.MissedRunPolicy}
    (h : cron.validate input = .ok checked) : cron.validateType input = .ok checked.1 := by
  unfold Cron.validate at h
  split at h
  · contradiction
  · obtain ⟨-, -, h⟩ := bind_eq_ok_iff.mp h
    obtain ⟨concurrencyPolicy, -, h⟩ := bind_eq_ok_iff.mp h
    obtain ⟨missedRunPolicy, -, h⟩ := bind_eq_ok_iff.mp h
    obtain ⟨type, htype, h⟩ := bind_eq_ok_iff.mp h
    cases h
    exact htype

theorem follows_applyRuntimeState {config config' : Config}
    {now : Int} (h : cron.applyRuntimeState config enabled now = .ok config')
    (hflag : enabled = current ∨ config.type = .manual) : Follows current config' := by
  grind [Cron.applyRuntimeState, Follows]

theorem follows_configured {monitorID id : String} {now : Int}
    (hconfig : configured cron monitorID enabled input id now = .ok config)
    (h : enabled = current ∨ (cron.normalize input).type = "MANUAL") :
    Follows current config := by
  unfold configured at hconfig
  obtain ⟨checked, hchecked, hconfig⟩ := bind_eq_ok_iff.mp hconfig
  exact follows_applyRuntimeState hconfig
    (h.imp_right fun hmanual => type_manual (type_of_validate hchecked) hmanual)

theorem Followed.saveSchedule (h : Followed d s) {existing : Option Config}
    (hconfig : Follows s.monitor.enabled config)
    (hsaved : saveSchedule existing config s.schedules = some schedules) :
    ∀ row ∈ schedules, row.monitorId = d.monitorID → Follows s.monitor.enabled row := by
  intro row hrow hmonitor
  cases existing with
  | none =>
    obtain hold | rfl := Table.mem_insert hsaved hrow
    · exact h row hold hmonitor
    · exact hconfig
  | some old =>
    cases hsaved
    obtain ⟨before, hbefore, rfl⟩ := Table.mem_update.mp hrow
    split
    · exact hconfig
    · rename_i hother
      rw [if_neg hother] at hmonitor
      exact h before hbefore hmonitor

theorem schedules_updateDraft {definition : Definition} (h : updateDraft definition s = some t) :
    t.schedules = s.schedules := by
  rw [updateDraft, guarded_eq_some_iff] at h
  rw [← h.2]

theorem schedules_publish {published : Revision} {nextID : RevisionId} {repository : Repository}
    (h : publish repository published nextID s = some t) : t.schedules = s.schedules := by
  rw [publish, guarded_eq_some_iff] at h
  rw [← h.2]

theorem Effect.enabled_eq (h : Effect d s call statement t stage) :
    t.monitor.enabled = s.monitor.enabled ∨
      ∃ enabled, stage = some (d.written enabled) ∧ t.monitor.enabled = enabled := by
  cases h with
  | restored _ _ hupdate => exact .inl (by rw [monitor_updateDraft hupdate])
  | published _ _ _ hpublish => exact .inl (by rw [monitor_publish hpublish])
  | stateSet _ _ => exact .inr ⟨_, rfl, rfl⟩
  | _ => exact .inl rfl

theorem Tracked.call_pending (h : Tracked d s) (hcall : s.calls.get? callID = some call)
    (hcovered : ¬ Covered s callID) {enabled : Bool} (hstage : call.stage = .written enabled)
    (hperform : perform d s call statement = some (t, stage)) (hcalls : t.calls = s.calls)
    (hmay : MayStep d s call statement) : Tracked d (t.settle callID stage) := by
  have hpending : call.stage.pending? = some enabled := by rw [hstage]; rfl
  have hend : MayEnd d s enabled → Tracked d (s.settle callID stage) := by
    intro hmay
    obtain hfollowed | hcurrent := h.followed_or_pending hcall hcovered
    · exact hfollowed.settle rfl rfl
    · rw [hpending, Option.some.injEq] at hcurrent
      exact (hmay hcurrent).settle rfl rfl
  obtain ⟨rfl, rfl⟩ | ⟨now, rfl, rfl⟩ := perform_pending hstage hperform
  · exact hend (hmay enabled hpending)
  · have hmay := hmay enabled hpending
    rw [MaySet] at hmay
    split
    · rename_i hactive
      rw [if_pos hactive] at hmay
      refine .inl ?_
      rw [Followed, settle_schedules, settle_monitor]
      exact fun config hconfig hmonitor => follows_setSchedules hconfig hmonitor hmay
    · rename_i hactive
      rw [if_neg hactive] at hmay
      exact hend hmay

theorem tracked_step {a : Action} (hpostgres : d.repository = .postgres) (h : Tracked d s)
    (hstep : step d s a = some s') (hwrites : WritesCurrent d s a s') : Tracked d s' := by
  cases a with
  | saveDraft definition =>
    rw [step, Option.ite_none_right_eq_some] at hstep
    rw [Tracked, Followed, monitor_updateDraft hstep.2, calls_updateDraft hstep.2,
      schedules_updateDraft hstep.2]
    exact h
  | begin callID operation =>
    obtain ⟨calls, hinsert, rfl⟩ := step_begin hstep
    refine h.imp id ?_
    rintro ⟨c, hc, hpending⟩
    refine ⟨c, ?_, hpending⟩
    exact Table.mem_def.mpr ((Table.insert_eq_some_iff.mp hinsert).2 ▸ List.mem_append_left _ hc)
  | call callID statement =>
    obtain ⟨call, t, stage, hcall, hperform, rfl⟩ := step_call hstep
    have heffect := effect_of_perform hperform
    have hcalls := heffect.calls_eq
    obtain henabled | ⟨enabled, rfl, henabled⟩ := heffect.enabled_eq
    · by_cases hcovered : Covered s callID
      · exact hcovered.settle hcalls henabled
      have hmay := (hwrites call (Table.mem_of_get? hcall) (Table.key_of_get? hcall)).resolve_left
        hcovered
      by_cases hwritten : ∃ enabled, call.stage = .written enabled
      · obtain ⟨enabled, hstage⟩ := hwritten
        exact h.call_pending hcall hcovered hstage hperform hcalls hmay
      have hfollowed : Followed d s := by
        refine (h.followed_or_pending hcall hcovered).resolve_right fun hpending => hwritten ?_
        revert hpending
        cases call.stage with
        | written enabled => exact fun _ => ⟨enabled, rfl⟩
        | _ =>
          intro hpending
          cases hpending
      cases heffect with
      | answered _ _ => exact hfollowed.settle rfl rfl
      | restored _ _ hupdate => exact hfollowed.settle (schedules_updateDraft hupdate) henabled
      | published _ _ _ hpublish => exact hfollowed.settle (schedules_publish hpublish) henabled
      | stateSet _ _ => exact hfollowed.settle rfl henabled
      | schedulesWritten hstage _ _ => exact absurd ⟨_, hstage⟩ hwritten
      | configured hoperation hstage hconfig hsaved _ =>
        rw [MayStep, hoperation, hstage] at hmay
        refine .inl ?_
        rw [Followed, settle_schedules, settle_monitor]
        exact hfollowed.saveSchedule (follows_configured hconfig hmay) hsaved
    · refine .inr ⟨_, mem_settle_self (hcalls ▸ hcall), ?_⟩
      rw [settle_monitor, henabled, Service.written, hpostgres]
      rfl

end Step

/-- **The schedule follows the monitor while no call is in progress**, in every run in which no
stale flag is written to it and no call ends between its two statements. -/
theorem follows_along (d : Service) (hpostgres : d.repository = .postgres) (draft : Revision)
    (as : List Action) (h : Along (step d) (WritesCurrent d) (created draft) as) :
    Along (step d) (fun _ _ s' => ActivityFollows d s') (created draft) as := by
  refine Along.of_guard (I := Tracked d) (fun s a s' hs hstep hwrites => ?_)
    (tracked_created draft) h
  have htracked := tracked_step hpostgres hs hstep hwrites
  exact ⟨htracked, htracked.activityFollows⟩

/-! ## A schedule that never fires -/

def activityService : Service where
  library := ⟨fun _ => none, fun _ => "0"⟩
  cron := ⟨fun _ => true, fun _ _ _ => none, fun _ => true⟩
  repository := .postgres
  monitorID := "m1"

def activityDraft : Revision := ⟨1, 1, 1, .draft,
  [("steps", .arr [.obj [("id", .str "latency"), ("type", .str "METRIC_VALIDATION"),
    ("metric", .obj [("profileId", .str "prod"), ("metricSelector", .str "p95")])]])]⟩

def everyMinute : Scheduler.Input := ⟨"INTERVAL", "", 60, "UTC", 0, "", ""⟩

def publishedFirst : List Action :=
  [.begin 1 .publish, .call 1 .getMonitor, .call 1 .getRevision, .call 1 (.publish 2),
    .call 1 .return]

/-- `Configure` reads the flag between the two statements of `Enable`. -/
def configuredWhileEnabled : List Action :=
  publishedFirst ++ [.begin 2 .enable, .call 2 .getMonitor, .call 2 .setState,
    .begin 3 (.configure everyMinute), .call 3 .getMonitor, .call 3 .findSchedule,
    .call 3 (.configure "s1" 10), .call 3 .return, .call 2 (.writeSchedules 11), .call 2 .return,
    .begin 4 .disable, .call 4 .getMonitor, .call 4 .setState, .call 4 (.writeSchedules 12),
    .call 4 .return]

/-- `Configure` reads the flag before `Enable`, and writes the schedule after it. -/
def configuredAfterEnabled : List Action :=
  publishedFirst ++ [.begin 2 (.configure everyMinute), .call 2 .getMonitor, .call 2 .findSchedule,
    .begin 3 .enable, .call 3 .getMonitor, .call 3 .setState, .call 3 (.writeSchedules 10),
    .call 3 .return, .call 2 (.configure "s1" 11), .call 2 .return]

theorem follows_along_configured :
    Along (step activityService) (fun _ _ s' => ActivityFollows activityService s')
      (created activityDraft) configuredWhileEnabled :=
  follows_along activityService rfl activityDraft configuredWhileEnabled
    (by decide +kernel)

/-- **An enabled monitor is left with a schedule that is not active.** -/
theorem enabled_without_schedule :
    ¬ Along (step activityService) (fun _ _ s' => ActivityFollows activityService s')
      (created activityDraft) configuredAfterEnabled := by
  decide +kernel

end Rhythm.Monitors.Lifecycle
