import Rhythm.Monitors.Lifecycle

/-!
# Rhythm.Monitors.Archive

Is an archived monitor left alone?  `Publish`, `Enable`, `Disable` and `Restore` check the state in
one statement and write it in another, without looking again, so that a call that was let through
before `Archive` brings the monitor back.

`archived_along` says that nothing else does.  `enabledOnly_of_reachable`: whatever the order, a
monitor is enabled only in the state `ENABLED` and with a published revision.
-/

namespace Rhythm.Monitors.Lifecycle

open Scheduler (MonitorState)

/-! ## What has happened to the monitor -/

def Operation.isArchive : Operation → Bool
  | .archive => true
  | _ => false

def Operation.isRestore : Operation → Bool
  | .restore => true
  | _ => false

/-- Once an `Archive` call has returned, and until a `Restore` call that started after it has
written: the `Restore` calls that have started since. -/
abbrev Archival := Option (List CallId)

def archival (s : State) (a : Action) (_ : State) (since : Archival) : Archival :=
  match a with
  | .begin callID .restore => since.map (callID :: ·)
  | .call callID .return =>
    if ∃ call ∈ s.calls, call.id = callID ∧ call.operation.isArchive = true ∧
        call.stage.wrote = true then some []
    else since
  | .call callID .setState =>
    since.filter fun restores => ¬ ((∃ call ∈ s.calls, call.id = callID ∧
      call.operation.isRestore = true) ∧ callID ∈ restores)
  | _ => since

/-- An `Archive` call has written the monitor, and has not returned. -/
def Archiving (s : State) : Prop :=
  ∃ call ∈ s.calls, call.operation.isArchive = true ∧ call.stage.wrote = true

/-- An `Archive` call has returned or is about to. -/
def Held (s : State) (since : Archival) : Prop := since.isSome = true ∨ Archiving s

instance (s : State) : Decidable (Archiving s) :=
  inferInstanceAs (Decidable (∃ call ∈ s.calls, _))

instance (s : State) (since : Archival) : Decidable (Held s since) :=
  inferInstanceAs (Decidable (_ ∨ _))

def Archived (s : State) (since : Archival) : Prop :=
  since.isSome = true → s.monitor.state = .archived ∧ s.monitor.enabled = false

/-- A monitor is enabled only together with its state, and once it is published. -/
def EnabledOnly (s : State) : Prop :=
  s.monitor.enabled = true →
    s.monitor.state = .enabled ∧ s.monitor.latestPublishedRevisionId.isSome = true

instance (s : State) (since : Archival) : Decidable (Archived s since) :=
  inferInstanceAs (Decidable (_ → _))

instance (s : State) : Decidable (EnabledOnly s) := inferInstanceAs (Decidable (_ → _))

/-- The call may write the state of the monitor: no `Archive` has come in between; or it is a
`Restore` that started after every one that has. -/
def MayWrite (x : State × Archival) (call : Call) : Prop :=
  match call.operation with
  | .archive => True
  | .restore => ¬ Held x.1 x.2 ∨ ((∃ restores ∈ x.2, call.id ∈ restores) ∧ ¬ Archiving x.1)
  | _ => ¬ Held x.1 x.2

/-- **The condition on a step.**  A call that writes the state of the monitor may do so. -/
def WritesUnarchived (d : Service) (x : State × Archival) (a : Action) (_ : State × Archival) :
    Prop :=
  match a with
  | .call callID .setState => ∀ call ∈ x.1.calls, call.id = callID → MayWrite x call
  | .call callID (.publish nextID) => ∀ call ∈ x.1.calls, call.id = callID →
    ∀ published ∈ call.stage.revision?,
      (publish d.repository published nextID x.1).isSome = true → MayWrite x call
  | _ => True

instance (x : State × Archival) (call : Call) : Decidable (MayWrite x call) := by
  unfold MayWrite
  split
  · exact isTrue trivial
  · infer_instance
  · infer_instance

instance (d : Service) : ∀ x a x', Decidable (WritesUnarchived d x a x')
  | x, .call callID .setState, _ =>
    inferInstanceAs (Decidable (∀ call ∈ x.1.calls, call.id = callID → MayWrite x call))
  | x, .call callID (.publish nextID), _ =>
    inferInstanceAs (Decidable (∀ call ∈ x.1.calls, call.id = callID →
      ∀ published ∈ call.stage.revision?,
        (publish d.repository published nextID x.1).isSome = true → MayWrite x call))
  | _, .saveDraft _, _ | _, .begin _ _, _ | _, .call _ .getMonitor, _
  | _, .call _ .getRevision, _ | _, .call _ .findSchedule, _ | _, .call _ .restoreRevision, _
  | _, .call _ (.writeSchedules _), _ | _, .call _ (.configure _ _), _
  | _, .call _ .return, _ | _, .call _ .abandon, _ => isTrue trivial

section Step

variable {d : Service} {s s' t : State} {since : Archival} {call : Call} {stage : Option Stage}
  {statement : Statement} {a : Action}

/-- What an `Enable` call was let through for stays true. -/
structure EnabledInvariant (s : State) : Prop where
  only : EnabledOnly s
  published : ∀ c ∈ s.calls, c.operation.target c.stage.monitor? = some (.enabled, true) →
    s.monitor.latestPublishedRevisionId.isSome = true

theorem enabledInvariant_created (draft : Revision) : EnabledInvariant (created draft) where
  only := by simp [EnabledOnly, created]
  published := fun c hc => absurd hc (Table.not_mem_empty c)

theorem target_enabled {operation : Operation} {monitor : Option Monitor} {state : MonitorState}
    (h : operation.target monitor = some (state, true)) :
    state = .enabled ∧ operation = .enable ∧ monitor.isSome = true := by
  unfold Operation.target at h
  split at h
  · cases h
    exact ⟨rfl, rfl, rfl⟩
  all_goals simp at h

theorem target_archive {monitor : Option Monitor} {state : MonitorState} {enabled : Bool}
    (h : Operation.archive.target monitor = some (state, enabled)) :
    state = .archived ∧ enabled = false := by
  cases monitor with
  | none =>
    cases h
    exact ⟨rfl, rfl⟩
  | some monitor => contradiction

variable {callID : CallId}

theorem EnabledInvariant.settle (h : EnabledInvariant s)
    (hcall : s.calls.get? callID = some call) (hcalls : t.calls = s.calls)
    (honly : EnabledOnly t)
    (hlatest : s.monitor.latestPublishedRevisionId.isSome = true →
      t.monitor.latestPublishedRevisionId.isSome = true)
    (hstage : ∀ monitor, call.operation = .enable → stage = some (.read monitor) →
      t.monitor.latestPublishedRevisionId.isSome = true) :
    EnabledInvariant (t.settle callID stage) where
  only := by
    rw [EnabledOnly, settle_monitor]
    exact honly
  published := by
    intro c hc htarget
    rw [settle_monitor]
    obtain ⟨hmem, -⟩ | ⟨next, hnext, rfl⟩ := mem_settle (hcalls ▸ hcall) hc
    · exact hlatest (h.published c (hcalls ▸ hmem) htarget)
    · obtain ⟨-, henable, hread⟩ := target_enabled htarget
      cases next with
      | read monitor => exact hstage monitor henable hnext
      | _ => contradiction

theorem enabledInvariant_step (h : EnabledInvariant s) (hstep : step d s a = some s') :
    EnabledInvariant s' := by
  cases a with
  | saveDraft definition =>
    rw [step, Option.ite_none_right_eq_some] at hstep
    have hmonitor := monitor_updateDraft hstep.2
    have hcalls := calls_updateDraft hstep.2
    exact ⟨by rw [EnabledOnly, hmonitor]; exact h.only, by rw [hmonitor, hcalls]; exact h.published⟩
  | begin callID operation =>
    obtain ⟨calls, hinsert, rfl⟩ := step_begin hstep
    refine ⟨h.only, fun c hc htarget => ?_⟩
    obtain hc | rfl := Table.mem_insert hinsert hc
    · exact h.published c hc htarget
    · exact absurd (target_enabled htarget).2.2 (by simp [Stage.monitor?])
  | call callID statement =>
    obtain ⟨call, t, stage, hcall, hperform, rfl⟩ := step_call hstep
    have heffect := effect_of_perform hperform
    have hcalls := heffect.calls_eq
    have hdone : ∀ monitor, call.operation = .enable → some Stage.done = some (.read monitor) →
        t.monitor.latestPublishedRevisionId.isSome = true := by
      intro monitor _ hread
      cases hread
    cases heffect with
    | answered hanswers hfails =>
      refine h.settle hcall rfl h.only id fun monitor henable hread => ?_
      obtain ⟨-, hallows⟩ := hanswers _ hread
      rw [henable] at hallows
      exact (of_decide_eq_true hallows).1
    | restored hoperation hstage hupdate =>
      have hmonitor := monitor_updateDraft hupdate
      exact h.settle hcall hcalls (by rw [EnabledOnly, hmonitor]; exact h.only)
        (by rw [hmonitor]; exact id) hdone
    | published hoperation hstage hfresh hpublish =>
      have hmonitor := monitor_publish hpublish
      refine h.settle hcall hcalls ?_ (fun _ => by rw [hmonitor]; rfl) hdone
      rw [EnabledOnly, hmonitor]
      intro henabled
      refine ⟨?_, rfl⟩
      simp only [publishedState, if_pos henabled]
      split
      · rfl
      · exact (h.only henabled).1
    | stateSet hstage htarget =>
      rename_i state enabled
      refine h.settle hcall hcalls ?_ id fun monitor _ hread => ?_
      · intro henabled
        obtain rfl : enabled = true := henabled
        obtain ⟨hstate, -⟩ := target_enabled htarget
        subst hstate
        exact ⟨rfl, h.published call (Table.mem_of_get? hcall) htarget⟩
      · have hwrote := wrote_written (d := d) enabled
        rw [Option.some.inj hread] at hwrote
        contradiction
    | schedulesWritten hstage hschedules hactive => exact h.settle hcall hcalls h.only id hdone
    | configured hoperation hstage hconfig hsaved hactive =>
      exact h.settle hcall hcalls h.only id hdone

/-- **A monitor is enabled only in the state `ENABLED` and once it is published.** -/
theorem enabledOnly_of_reachable {draft : Revision} (h : Reachable (step d) (created draft) s) :
    EnabledOnly s :=
  (h.invariant (fun _ _ _ => enabledInvariant_step) (enabledInvariant_created draft)).only

/-! ## Archiving -/

/-- What an `Archive` call has written is there until the next `Restore`. -/
def HeldInvariant (s : State) (since : Archival) : Prop :=
  Held s since → s.monitor.state = .archived ∧ s.monitor.enabled = false

theorem HeldInvariant.archived (h : HeldInvariant s since) : Archived s since :=
  fun hsince => h (.inl hsince)

theorem heldInvariant_created (draft : Revision) : HeldInvariant (created draft) none := by
  rintro (hsince | ⟨c, hc, -⟩)
  · contradiction
  · exact absurd hc (Table.not_mem_empty c)

theorem held_of_archival (h : (archival s a s' since).isSome = true) : Held s since := by
  unfold archival at h
  split at h
  · exact .inl (by simpa using h)
  · split at h
    · rename_i hreturned
      obtain ⟨c, hc, -, hreturned⟩ := hreturned
      exact .inr ⟨c, hc, hreturned⟩
    · exact .inl h
  · refine .inl ?_
    obtain ⟨restores, hrestores⟩ := Option.isSome_iff_exists.mp h
    rw [(Option.filter_eq_some_iff.mp hrestores).1]
    rfl
  · exact .inl h

theorem archiving_settle (hcall : s.calls.get? callID = some call)
    (hcalls : t.calls = s.calls) (h : Archiving (t.settle callID stage)) :
    Archiving s ∨ (call.operation.isArchive = true ∧ ∃ next ∈ stage, next.wrote = true) := by
  obtain ⟨c, hc, harchive, hwrote⟩ := h
  obtain ⟨hmem, -⟩ | ⟨next, hnext, rfl⟩ := mem_settle (hcalls ▸ hcall) hc
  · exact .inl ⟨c, hcalls ▸ hmem, harchive, hwrote⟩
  · exact .inr ⟨harchive, next, hnext, hwrote⟩

theorem held_settle {a : Action} (hcall : s.calls.get? callID = some call)
    (hcalls : t.calls = s.calls)
    (hother : call.operation.isArchive = false ∨ ∀ next ∈ stage, next.wrote = false)
    (h : Held (t.settle callID stage) (archival s a (t.settle callID stage) since)) :
    Held s since := by
  obtain hsince | harchiving := h
  · exact held_of_archival hsince
  · obtain harchiving | ⟨harchive, next, hnext, hwrote⟩ :=
      archiving_settle hcall hcalls harchiving
    · exact .inr harchiving
    · grind

theorem not_held_restored {x' : State} {restores : List CallId}
    (hcall : s.calls.get? callID = some call) (hcalls : t.calls = s.calls)
    (hrestore : call.operation = .restore) (hsince : since = some restores)
    (hmem : call.id ∈ restores) (harchiving : ¬ Archiving s) :
    ¬ Held (t.settle callID stage) (archival s (.call callID .setState) x' since) := by
  obtain rfl : call.id = callID := Table.key_of_get? hcall
  have harchival : archival s (.call call.id .setState) x' since = none := by
    have hrestored : ∃ c ∈ s.calls, c.id = call.id ∧ c.operation.isRestore = true :=
      ⟨call, Table.mem_of_get? hcall, rfl, by rw [hrestore]; rfl⟩
    simp [archival, hsince, Option.filter, hrestored, hmem]
  rw [harchival]
  rintro (hsome | h)
  · contradiction
  · obtain hbefore | ⟨harchive, -⟩ := archiving_settle hcall hcalls h
    · exact harchiving hbefore
    · rw [hrestore] at harchive
      contradiction

theorem heldInvariant_step (h : HeldInvariant s since) (hstep : step d s a = some s')
    (hwrites : WritesUnarchived d (s, since) a (s', archival s a s' since)) :
    HeldInvariant s' (archival s a s' since) := by
  cases a with
  | saveDraft definition =>
    rw [step, Option.ite_none_right_eq_some] at hstep
    rw [HeldInvariant, Held, Archiving, monitor_updateDraft hstep.2, calls_updateDraft hstep.2]
    exact h
  | begin callID operation =>
    obtain ⟨calls, hinsert, rfl⟩ := step_begin hstep
    rintro (hsince | ⟨c, hc, harchive, hwrote⟩)
    · exact h (held_of_archival hsince)
    · obtain hc | rfl := Table.mem_insert hinsert hc
      · exact h (.inr ⟨c, hc, harchive, hwrote⟩)
      · contradiction
  | call callID statement =>
    obtain ⟨call, t, stage, hcall, hperform, rfl⟩ := step_call hstep
    have hmem := Table.mem_of_get? hcall
    have hid := Table.key_of_get? hcall
    have heffect := effect_of_perform hperform
    have hcalls := heffect.calls_eq
    rw [HeldInvariant, settle_monitor]
    intro hheld
    cases heffect with
    | answered hanswers hfails =>
      exact h (held_settle hcall rfl (.inr fun next hnext => (hanswers next hnext).wrote) hheld)
    | restored hoperation hstage hupdate =>
      rw [monitor_updateDraft hupdate]
      exact h (held_settle hcall hcalls (.inl (by rw [hoperation]; rfl)) hheld)
    | published hoperation hstage hfresh hpublish =>
      have hmay := hwrites call hmem hid _ (by rw [hstage]; exact rfl) (by rw [hpublish]; rfl)
      rw [MayWrite, hoperation] at hmay
      exact absurd (held_settle hcall hcalls (.inl (by rw [hoperation]; rfl)) hheld) hmay
    | stateSet hstage htarget =>
      have hmay := hwrites call hmem hid
      rw [MayWrite] at hmay
      cases hoperation : call.operation with
      | archive =>
        rw [hoperation] at htarget
        obtain ⟨rfl, rfl⟩ := target_archive htarget
        exact ⟨rfl, rfl⟩
      | restore =>
        rw [hoperation] at hmay
        obtain hmay | ⟨⟨restores, hsince, hrestores⟩, harchiving⟩ := hmay
        · exact absurd (held_settle hcall hcalls (.inl (by rw [hoperation]; rfl)) hheld) hmay
        · exact absurd hheld
            (not_held_restored hcall hcalls hoperation hsince hrestores harchiving)
      | _ =>
        rw [hoperation] at hmay
        exact absurd (held_settle hcall hcalls (.inl (by rw [hoperation]; rfl)) hheld) hmay
    | schedulesWritten hstage hschedules hactive =>
      refine h ?_
      obtain hsince | hsettled := hheld
      · exact held_of_archival hsince
      · obtain harchiving | ⟨harchive, -⟩ := archiving_settle hcall hcalls hsettled
        · exact .inr harchiving
        · exact .inr ⟨call, hmem, harchive, by rw [hstage]; rfl⟩
    | configured hoperation hstage hconfig hsaved hactive =>
      exact h (held_settle hcall hcalls (.inl (by rw [hoperation]; rfl)) hheld)

end Step

/-- The calls, with what they have done to the archived monitor. -/
abbrev archivalRecorded (d : Service) : State × Archival → Action → Option (State × Archival) :=
  recording (step d) archival

/-- **An archived monitor is left alone until a `Restore`**, in every run in which no call that was
let through before `Archive` writes after it. -/
theorem archived_along (d : Service) (draft : Revision) (as : List Action)
    (h : Along (archivalRecorded d) (WritesUnarchived d) (created draft, none) as) :
    Along (archivalRecorded d) (fun _ _ x' => Archived x'.1 x'.2 ∧ EnabledOnly x'.1)
      (created draft, none) as := by
  refine Along.of_guard (I := fun x => EnabledInvariant x.1 ∧ HeldInvariant x.1 x.2)
    (fun x a x' hx hstep hwrites => ?_)
    ⟨enabledInvariant_created draft, heldInvariant_created draft⟩ h
  obtain ⟨s, since⟩ := x
  obtain ⟨s', since'⟩ := x'
  obtain ⟨hmove, hrecord⟩ := recording_eq_some_iff.mp hstep
  dsimp only at hmove hrecord
  subst hrecord
  have henabled := enabledInvariant_step hx.1 hmove
  have hheld := heldInvariant_step hx.2 hmove hwrites
  exact ⟨⟨henabled, hheld⟩, hheld.archived, henabled.only⟩

/-! ## A monitor that comes back -/

def archiveService : Service where
  library := ⟨fun _ => none, fun _ => "0"⟩
  cron := ⟨fun _ => true, fun _ _ _ => none, fun _ => true⟩
  repository := .postgres
  monitorID := "m1"

def archiveDraft : Revision := ⟨1, 1, 1, .draft,
  [("steps", .arr [.obj [("id", .str "latency"), ("type", .str "METRIC_VALIDATION"),
    ("metric", .obj [("profileId", .str "prod"), ("metricSelector", .str "p95")])]])]⟩

/-- One call after another, from `Publish` to `Restore`. -/
def archivedThenRestored : List Action :=
  [.begin 1 .publish, .call 1 .getMonitor, .call 1 .getRevision, .call 1 (.publish 2),
    .call 1 .return, .begin 2 .enable, .call 2 .getMonitor, .call 2 .setState,
    .call 2 (.writeSchedules 5), .call 2 .return, .begin 3 .archive, .call 3 .setState,
    .call 3 (.writeSchedules 6), .call 3 .return, .begin 4 .restore, .call 4 .getMonitor,
    .call 4 .setState, .call 4 (.writeSchedules 7), .call 4 .return]

theorem enabledOnly_restored : ∃ s,
    runActions (step archiveService) (created archiveDraft) archivedThenRestored = some s ∧
      EnabledOnly s := by
  have hsome : (runActions (step archiveService) (created archiveDraft)
      archivedThenRestored).isSome = true := by decide
  obtain ⟨s, hrun⟩ := Option.isSome_iff_exists.mp hsome
  exact ⟨s, hrun, enabledOnly_of_reachable ⟨_, hrun⟩⟩

/-- `Publish` has read the draft when the monitor is archived. -/
def publishedAfterArchive : List Action :=
  [.begin 1 .publish, .call 1 .getMonitor, .call 1 .getRevision, .begin 2 .archive,
    .call 2 .setState, .call 2 (.writeSchedules 5), .call 2 .return, .call 1 (.publish 2)]

theorem archived_along_restored :
    Along (archivalRecorded archiveService)
      (fun _ _ x' => Archived x'.1 x'.2 ∧ EnabledOnly x'.1)
      (created archiveDraft, none) archivedThenRestored :=
  archived_along archiveService archiveDraft archivedThenRestored (by decide)

/-- **`Publish` brings an archived monitor back.** -/
theorem archived_published :
    ¬ Along (archivalRecorded archiveService)
      (fun _ _ x' => Archived x'.1 x'.2 ∧ EnabledOnly x'.1)
      (created archiveDraft, none) publishedAfterArchive := by
  decide

end Rhythm.Monitors.Lifecycle
