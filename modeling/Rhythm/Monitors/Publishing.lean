import Rhythm.Monitors.Lifecycle

/-!
# Rhythm.Monitors.Publishing

Does `Publish` freeze what it validated?  The call reads the draft and validates it, and its
transaction later freezes the draft of that moment and makes a copy of what was read the next
draft.  A draft that is saved in between is frozen although the call has not validated it, and the
next draft goes back behind it.

`freezes_along` says that nothing else goes wrong.
-/

namespace Rhythm.Monitors.Lifecycle

/-! ## What has happened to the draft -/

/-- What the calls have done to the draft. -/
structure Record where
  /-- The definition that was written to the draft last. -/
  acknowledged : Definition
  /-- What the `Publish` calls have read and validated, the last first. -/
  frozen : List (RevisionId × Definition)
  /-- The definitions written since the last of them. -/
  since : List Definition

def State.loaded? (s : State) (callID : CallId) : Option Revision :=
  (s.calls.get? callID).bind fun call => call.stage.revision?

def draftWrite (s : State) : Action → Option Definition
  | .saveDraft definition => some (normalizeScriptEnabledFlags definition)
  | .call callID .restoreRevision =>
    ((s.loaded? callID).map Revision.definition).filter fun definition =>
      (updateDraft definition s).isSome
  | _ => none

/-- The revision that an action publishes, as its call has read it. -/
def publication (d : Service) (s : State) : Action → Option Revision
  | .call callID (.publish nextID) =>
    (s.loaded? callID).filter fun published => (publish d.repository published nextID s).isSome
  | _ => none

def record (d : Service) (s : State) (a : Action) (_ : State) (history : Record) : Record :=
  match draftWrite s a, publication d s a with
  | some definition, _ =>
    { history with acknowledged := definition, since := history.since ++ [definition] }
  | none, some published =>
    { history with
      frozen := (published.id, published.definition) :: history.frozen
      since := [] }
  | none, none => history

/-- * A revision that was published has the definition that its `Publish` read, which is valid.
* The draft has the definition that was published last, or one that was saved since.
* The draft has the definition that was saved last. -/
structure Freezes (library : Library) (s : State) (history : Record) : Prop where
  frozen : ∀ entry ∈ history.frozen, validateDefinition library entry.2 = [] ∧
    (∃ row ∈ s.revisions, row.id = entry.1) ∧
    ∀ row ∈ s.revisions, row.id = entry.1 → row.status = .published ∧ row.definition = entry.2
  next : ∀ entry ∈ history.frozen.head?, ∀ row ∈ s.revisions, IsDraft s.monitor row →
    row.definition ∈ entry.2 :: history.since
  kept : (∃ row ∈ s.revisions, IsDraft s.monitor row) ∧
    ∀ row ∈ s.revisions, IsDraft s.monitor row → row.definition = history.acknowledged

instance (library : Library) (s : State) (history : Record) :
    Decidable (Freezes library s history) :=
  have : Decidable (∀ entry ∈ history.frozen.head?, ∀ row ∈ s.revisions, IsDraft s.monitor row →
      row.definition ∈ entry.2 :: history.since) :=
    match history.frozen.head? with
    | none => isTrue nofun
    | some entry => decidable_of_iff (∀ row ∈ s.revisions, IsDraft s.monitor row →
        row.definition ∈ entry.2 :: history.since) (by simp)
  decidable_of_iff (_ ∧ _ ∧ _)
    ⟨fun h => ⟨h.1, h.2.1, h.2.2⟩, fun h => ⟨h.frozen, h.next, h.kept⟩⟩

/-- **The condition on a step.**  When the transaction of a `Publish` call begins and the draft is
still the revision that the call has read, what was written to it last is what the call has read;
and before the memory repository's, no other `Publish` has replaced the draft since. -/
def ReadsLast (d : Service) (x : State × Record) (a : Action) (_ : State × Record) : Prop :=
  match a with
  | .call callID (.publish _) => ∀ published ∈ x.1.loaded? callID,
    (d.repository = .memory → x.1.monitor.currentDraftRevisionId = published.id) ∧
      (x.1.monitor.currentDraftRevisionId = published.id →
        published.definition = x.2.acknowledged)
  | _ => True

instance (d : Service) : ∀ x a x', Decidable (ReadsLast d x a x')
  | x, .call callID (.publish _), _ =>
    match h : x.1.loaded? callID with
    | none => isTrue fun _ hpublished => by rw [h] at hpublished; contradiction
    | some published => decidable_of_iff
        ((d.repository = .memory → x.1.monitor.currentDraftRevisionId = published.id) ∧
          (x.1.monitor.currentDraftRevisionId = published.id →
            published.definition = x.2.acknowledged)) (by simp [ReadsLast, h])
  | _, .saveDraft _, _ | _, .begin _ _, _ | _, .call _ .getMonitor, _
  | _, .call _ .getRevision, _ | _, .call _ .findSchedule, _ | _, .call _ .restoreRevision, _
  | _, .call _ .setState, _ | _, .call _ (.writeSchedules _), _ | _, .call _ (.configure _ _), _
  | _, .call _ .return, _ | _, .call _ .abandon, _ => isTrue trivial

/-- There is one draft row, with the definition that was written last; the rows that were published
are others; and what a `Publish` call has read is valid. -/
structure Invariant (library : Library) (s : State) (history : Record) : Prop where
  draft : ∃ row ∈ s.revisions, row.id = s.monitor.currentDraftRevisionId
  current : ∀ row ∈ s.revisions, row.id = s.monitor.currentDraftRevisionId →
    row.status = .draft ∧ row.definition = history.acknowledged
  frozen : ∀ entry ∈ history.frozen, validateDefinition library entry.2 = [] ∧
    entry.1 ≠ s.monitor.currentDraftRevisionId ∧ (∃ row ∈ s.revisions, row.id = entry.1) ∧
    ∀ row ∈ s.revisions, row.id = entry.1 → row.status = .published ∧ row.definition = entry.2
  next : ∀ entry ∈ history.frozen.head?, history.acknowledged ∈ entry.2 :: history.since
  loaded : ∀ call ∈ s.calls, call.operation = .publish → ∀ revision ∈ call.stage.revision?,
    validateDefinition library revision.definition = []

section Step

variable {d : Service} {s s' t : State} {history : Record} {library : Library}

theorem Invariant.freezes (h : Invariant library s history) : Freezes library s history where
  frozen := by
    intro entry hentry
    obtain ⟨hvalid, -, hexists, hrows⟩ := h.frozen entry hentry
    exact ⟨hvalid, hexists, hrows⟩
  next := by
    intro entry hentry row hrow hdraft
    rw [(h.current row hrow hdraft.1).2]
    exact h.next entry hentry
  kept := by
    obtain ⟨row, hrow, hid⟩ := h.draft
    refine ⟨⟨row, hrow, hid, (h.current row hrow hid).1⟩, ?_⟩
    exact fun row hrow hdraft => (h.current row hrow hdraft.1).2

theorem invariant_created (draft : Revision) :
    Invariant library (created draft) ⟨draft.definition, [], []⟩ where
  draft := ⟨_, List.mem_singleton_self _, rfl⟩
  current := by
    intro row hrow _
    rw [List.mem_singleton.mp hrow]
    exact ⟨rfl, rfl⟩
  frozen := List.forall_mem_nil _
  next := by simp
  loaded := fun call hcall => absurd hcall (Table.not_mem_empty call)

theorem Invariant.of_calls (h : Invariant library s history)
    (hmonitor : t.monitor.currentDraftRevisionId = s.monitor.currentDraftRevisionId)
    (hrevisions : t.revisions = s.revisions)
    (hloaded : ∀ call ∈ t.calls, call.operation = .publish → ∀ revision ∈ call.stage.revision?,
      validateDefinition library revision.definition = []) :
    Invariant library t history where
  draft := by rw [hmonitor, hrevisions]; exact h.draft
  current := by rw [hmonitor, hrevisions]; exact h.current
  frozen := by rw [hmonitor, hrevisions]; exact h.frozen
  next := h.next
  loaded := hloaded

theorem Invariant.updateDraft (h : Invariant library s history) {definition : Definition}
    (hupdate : updateDraft definition s = some t) :
    Invariant library t
      { history with acknowledged := definition, since := history.since ++ [definition] } := by
  rw [Lifecycle.updateDraft, guarded_eq_some_iff] at hupdate
  obtain ⟨-, rfl⟩ := hupdate
  have hrow : ∀ row ∈ s.revisions.map (fun row =>
      if IsDraft s.monitor row then { row with definition := definition } else row),
      ∃ old ∈ s.revisions, row.id = old.id ∧ row.status = old.status ∧
        (old.id = s.monitor.currentDraftRevisionId → row.definition = definition) ∧
        (old.id ≠ s.monitor.currentDraftRevisionId → row.definition = old.definition) := by
    intro row hrow
    obtain ⟨old, hold, rfl⟩ := List.mem_map.mp hrow
    refine ⟨old, hold, ?_⟩
    split
    · rename_i hdraft
      exact ⟨rfl, rfl, fun _ => rfl, fun hne => absurd hdraft.1 hne⟩
    · rename_i hdraft
      refine ⟨rfl, rfl, fun hid => ?_, fun _ => rfl⟩
      exact absurd ⟨hid, (h.current old hold hid).1⟩ hdraft
  have hexists : ∀ id, (∃ row ∈ s.revisions, row.id = id) →
      ∃ row ∈ s.revisions.map (fun row =>
        if IsDraft s.monitor row then { row with definition := definition } else row),
        row.id = id := by
    rintro id ⟨row, hmem, rfl⟩
    refine ⟨_, List.mem_map_of_mem hmem, ?_⟩
    split <;> rfl
  constructor
  · exact hexists _ h.draft
  · intro row hmem hid
    obtain ⟨old, hold, hsame, hstatus, hdefinition, -⟩ := hrow row hmem
    have hcurrent : old.id = s.monitor.currentDraftRevisionId := hsame.symm.trans hid
    exact ⟨hstatus.trans (h.current old hold hcurrent).1, hdefinition hcurrent⟩
  · intro entry hentry
    obtain ⟨hvalid, hother, hold, hrows⟩ := h.frozen entry hentry
    refine ⟨hvalid, hother, hexists _ hold, fun row hmem hid => ?_⟩
    obtain ⟨old, hold, hsame, hstatus, -, hdefinition⟩ := hrow row hmem
    have hentryId : old.id = entry.1 := hsame.symm.trans hid
    obtain ⟨hpublished, hfrozen⟩ := hrows old hold hentryId
    exact ⟨hstatus.trans hpublished, (hdefinition (hentryId ▸ hother)).trans hfrozen⟩
  · intro entry _
    exact List.mem_cons_of_mem _ (List.mem_append_right _ (List.mem_singleton_self _))
  · exact h.loaded

theorem Invariant.publish (h : Invariant library s history) {repository : Repository}
    {published : Revision} {nextID : RevisionId}
    (hfresh : nextID ∉ s.revisions.map Revision.id)
    (hpublish : publish repository published nextID s = some t)
    (hcurrent : s.monitor.currentDraftRevisionId = published.id)
    (hread : published.definition = history.acknowledged)
    (hvalid : validateDefinition library published.definition = []) :
    Invariant library t
      { history with
        frozen := (published.id, published.definition) :: history.frozen, since := [] } := by
  rw [Lifecycle.publish, guarded_eq_some_iff] at hpublish
  obtain ⟨-, rfl⟩ := hpublish
  have hnew : ∀ row ∈ s.revisions, row.id ≠ nextID := by
    rintro row hrow rfl
    exact hfresh (List.mem_map_of_mem hrow)
  have hfreeze : ∀ old ∈ s.revisions, IsDraft s.monitor old →
      (freeze repository published old).id = published.id ∧
        (freeze repository published old).status = .published ∧
        (freeze repository published old).definition = published.definition := by
    intro old hold hdraft
    cases repository with
    | memory => exact ⟨rfl, rfl, rfl⟩
    | postgres =>
      exact ⟨hdraft.1.trans hcurrent, rfl, ((h.current old hold hdraft.1).2).trans hread.symm⟩
  have hrow : ∀ row ∈ (s.revisions.map fun row =>
      if IsDraft s.monitor row then freeze repository published row else row) ++
        [nextDraft nextID published], row = nextDraft nextID published ∨
      (row.id = published.id ∧ row.status = .published ∧
        row.definition = published.definition) ∨
      (row ∈ s.revisions ∧ row.id ≠ published.id) := by
    intro row hrow
    obtain hrow | hrow := List.mem_append.mp hrow
    · obtain ⟨old, hold, rfl⟩ := List.mem_map.mp hrow
      split
      · rename_i hdraft
        exact .inr (.inl (hfreeze old hold hdraft))
      · rename_i hdraft
        refine .inr (.inr ⟨hold, fun hid => hdraft ?_⟩)
        have hidCurrent := hid.trans hcurrent.symm
        exact ⟨hidCurrent, (h.current old hold hidCurrent).1⟩
    · exact .inl (List.mem_singleton.mp hrow)
  have hexists : ∀ id, (∃ row ∈ s.revisions, row.id = id) →
      ∃ row ∈ (s.revisions.map fun row =>
        if IsDraft s.monitor row then freeze repository published row else row) ++
          [nextDraft nextID published], row.id = id := by
    rintro id ⟨row, hmem, rfl⟩
    refine ⟨_, List.mem_append_left _ (List.mem_map_of_mem hmem), ?_⟩
    split
    · rename_i hdraft
      rw [(hfreeze row hmem hdraft).1, ← hcurrent, hdraft.1]
    · rfl
  have hdraft : ∃ row ∈ s.revisions, row.id = published.id := hcurrent ▸ h.draft
  have hpublishedId : published.id ≠ nextID := by
    obtain ⟨row, hmem, hid⟩ := hdraft
    exact hid ▸ hnew row hmem
  constructor
  · exact ⟨_, List.mem_append_right _ (List.mem_singleton_self _), rfl⟩
  · intro row hmem hid
    obtain rfl | ⟨hpublished, -⟩ | ⟨hold, -⟩ := hrow row hmem
    · exact ⟨rfl, hread⟩
    · exact absurd (hpublished.symm.trans hid) hpublishedId
    · exact absurd hid (hnew row hold)
  · intro entry hentry
    obtain rfl | hentry := List.mem_cons.mp hentry
    · refine ⟨hvalid, hpublishedId, hexists _ hdraft, fun row hmem hid => ?_⟩
      obtain rfl | ⟨-, hpublished⟩ | ⟨-, hne⟩ := hrow row hmem
      · exact absurd hid.symm hpublishedId
      · exact hpublished
      · exact absurd hid hne
    · obtain ⟨hentryValid, hother, hold, hrows⟩ := h.frozen entry hentry
      have hentryId : entry.1 ≠ nextID := by
        obtain ⟨row, hmem, hid⟩ := hold
        exact hid ▸ hnew row hmem
      refine ⟨hentryValid, hentryId, hexists _ hold, fun row hmem hid => ?_⟩
      obtain rfl | ⟨hpublished, -⟩ | ⟨hmem, -⟩ := hrow row hmem
      · exact absurd hid.symm hentryId
      · exact absurd (hid.symm.trans (hpublished.trans hcurrent.symm)) hother
      · exact hrows row hmem hid
  · intro entry hentry
    rw [List.head?_cons, Option.mem_some_iff] at hentry
    rw [← hentry, ← hread]
    exact List.mem_cons_self
  · exact h.loaded

theorem record_of_fails {callID : CallId} {statement : Statement} {s' : State}
    (hfails : ∀ revision ∈ s.loaded? callID, Fails d s revision statement) :
    record d s (.call callID statement) s' history = history := by
  cases hloaded : s.loaded? callID with
  | none => cases statement <;> simp [record, draftWrite, publication, hloaded]
  | some revision =>
    have hnone := hfails revision hloaded
    cases statement with
    | restoreRevision =>
      have hnone : updateDraft revision.definition s = none := hnone
      simp [record, draftWrite, publication, hloaded, Option.filter, hnone]
    | publish nextID =>
      have hnone : Lifecycle.publish d.repository revision nextID s = none := hnone
      simp [record, draftWrite, publication, hloaded, Option.filter, hnone]
    | _ => rfl

theorem Invariant.loaded_settle (h : Invariant library s history) (hcalls : t.calls = s.calls)
    {callID : CallId} {call : Call} {stage : Option Stage}
    (hcall : s.calls.get? callID = some call)
    (hstage : call.operation = .publish → ∀ next ∈ stage, ∀ revision ∈ next.revision?,
      validateDefinition library revision.definition = []) :
    ∀ c ∈ (t.settle callID stage).calls, c.operation = .publish → ∀ revision ∈ c.stage.revision?,
      validateDefinition library revision.definition = [] := by
  intro c hc hpublish revision hrevision
  obtain ⟨hmem, -⟩ | ⟨next, hnext, rfl⟩ := mem_settle (hcalls ▸ hcall) hc
  · exact h.loaded c (hcalls ▸ hmem) hpublish revision hrevision
  · exact hstage hpublish next hnext revision hrevision

/-- **Step lemma.** -/
theorem invariant_step {a : Action} (h : Invariant d.library s history)
    (hstep : step d s a = some s')
    (hreads : ReadsLast d (s, history) a (s', record d s a s' history)) :
    Invariant d.library s' (record d s a s' history) := by
  cases a with
  | saveDraft definition =>
    rw [step, Option.ite_none_right_eq_some] at hstep
    exact h.updateDraft hstep.2
  | begin callID operation =>
    obtain ⟨calls, hinsert, rfl⟩ := step_begin hstep
    refine h.of_calls rfl rfl fun call hcall hpublish revision hrevision => ?_
    obtain hcall | rfl := Table.mem_insert hinsert hcall
    · exact h.loaded call hcall hpublish revision hrevision
    · contradiction
  | call callID statement =>
    obtain ⟨call, t, stage, hcall, hperform, rfl⟩ := step_call hstep
    have hloaded : s.loaded? callID = call.stage.revision? := by
      rw [State.loaded?, hcall, Option.bind_some]
    have heffect := effect_of_perform hperform
    have hcalls := heffect.calls_eq
    have hvalid : ∀ revision, call.operation = .publish → call.stage = .loaded revision →
        validateDefinition d.library revision.definition = [] :=
      fun revision hpublish hstage => h.loaded call (Table.mem_of_get? hcall) hpublish revision
        (by rw [hstage]; rfl)
    have hdone : call.operation = .publish → ∀ next ∈ some Stage.done,
        ∀ revision ∈ next.revision?, validateDefinition d.library revision.definition = [] := by
      rintro - next hnext revision hrevision
      cases hnext
      cases hrevision
    cases heffect with
    | answered hanswers hfails =>
      rw [record_of_fails (hloaded ▸ hfails)]
      refine h.of_calls (by rw [settle_monitor]) (settle_revisions _) (h.loaded_settle rfl hcall ?_)
      intro hpublish next hnext revision hrevision
      have haccepts := hanswers next hnext
      cases next with
      | loaded read =>
        cases hrevision
        rw [Answers, Call.accepts, hpublish] at haccepts
        exact of_decide_eq_true haccepts
      | _ => contradiction
    | restored hoperation hstage hupdate =>
      rename_i revisionID revision
      have hrecord : record d s (.call callID .restoreRevision) (t.settle callID (some .done))
          history = { history with
            acknowledged := revision.definition
            since := history.since ++ [revision.definition] } := by
        simp [record, draftWrite, hloaded, hstage, Stage.revision?, Option.filter, hupdate]
      rw [hrecord]
      exact (h.updateDraft hupdate).of_calls (by rw [settle_monitor]) (settle_revisions _)
        (h.loaded_settle hcalls hcall hdone)
    | published hoperation hstage hfresh hpublish =>
      rename_i published nextID
      have hrecord : record d s (.call callID (.publish nextID)) (t.settle callID (some .done))
          history = { history with
            frozen := (published.id, published.definition) :: history.frozen, since := [] } := by
        simp [record, draftWrite, publication, hloaded, hstage, Stage.revision?, Option.filter,
          hpublish]
      obtain ⟨hmemory, hread⟩ := hreads published (by rw [hloaded, hstage]; rfl)
      have hcurrent : s.monitor.currentDraftRevisionId = published.id := by
        cases hrepository : d.repository with
        | memory => exact hmemory hrepository
        | postgres =>
          rw [publish, Option.ite_none_right_eq_some] at hpublish
          exact hpublish.1.1 hrepository
      rw [hrecord]
      exact (h.publish hfresh hpublish hcurrent (hread hcurrent)
        (hvalid published hoperation hstage)).of_calls (by rw [settle_monitor]) (settle_revisions _)
        (h.loaded_settle hcalls hcall hdone)
    | stateSet hstage htarget =>
      refine h.of_calls (by rw [settle_monitor]) (settle_revisions _)
        (h.loaded_settle hcalls hcall ?_)
      rintro - next hnext
      cases hnext
      simp
    | schedulesWritten hstage hschedules hactive
    | configured hoperation hstage hconfig hsaved hactive =>
      exact h.of_calls (by rw [settle_monitor]) (settle_revisions _)
        (h.loaded_settle hcalls hcall hdone)

end Step

/-- The calls, with what they have done to the draft. -/
abbrev recorded (d : Service) : State × Record → Action → Option (State × Record) :=
  recording (step d) (record d)

def createdRecord (draft : Revision) : Record := ⟨draft.definition, [], []⟩

/-- **`Publish` freezes what it validated**, in every run in which each `Publish` call still finds
what it has read. -/
theorem freezes_along (d : Service) (draft : Revision) (as : List Action)
    (h : Along (recorded d) (ReadsLast d) (created draft, createdRecord draft) as) :
    Along (recorded d) (fun _ _ x' => Freezes d.library x'.1 x'.2)
      (created draft, createdRecord draft) as := by
  refine Along.of_guard (I := fun x => Invariant d.library x.1 x.2)
    (fun x a x' hx hstep hreads => ?_) (invariant_created draft) h
  obtain ⟨s, history⟩ := x
  obtain ⟨s', history'⟩ := x'
  obtain ⟨hmove, hrecord⟩ := recording_eq_some_iff.mp hstep
  dsimp only at hmove hrecord
  subst hrecord
  have hinvariant := invariant_step hx hmove hreads
  exact ⟨hinvariant, hinvariant.freezes⟩

/-! ## A draft that is saved in between -/

def metricDefinition (selector : String) : Definition :=
  [("steps", .arr [.obj [("id", .str "latency"), ("type", .str "METRIC_VALIDATION"),
    ("metric", .obj [("profileId", .str "prod"), ("metricSelector", .str selector)])]])]

def sampleService (repository : Repository) : Service where
  library := ⟨fun _ => none, fun _ => "0"⟩
  cron := ⟨fun _ => true, fun _ _ _ => none, fun _ => true⟩
  repository := repository
  monitorID := "m1"

def sampleDraft : Revision := ⟨1, 1, 1, .draft, metricDefinition "p50"⟩

def savedThenPublished : List Action :=
  [.saveDraft (metricDefinition "p95"), .begin 1 .publish, .call 1 .getMonitor,
    .call 1 .getRevision, .call 1 (.publish 2), .call 1 .return]

def savedWhilePublished : List Action :=
  [.begin 1 .publish, .call 1 .getMonitor, .call 1 .getRevision,
    .saveDraft (metricDefinition "p95"), .call 1 (.publish 2), .call 1 .return]

theorem freezes_along_saved :
    Along (recorded (sampleService .postgres))
      (fun _ _ x' => Freezes (sampleService .postgres).library x'.1 x'.2)
      (created sampleDraft, createdRecord sampleDraft) savedThenPublished :=
  freezes_along (sampleService .postgres) sampleDraft savedThenPublished (by decide)

/-- **The draft that was saved in between is published, and the next draft goes back behind it.** -/
theorem unread_draft_published :
    ¬ Along (recorded (sampleService .postgres))
      (fun _ _ x' => Freezes (sampleService .postgres).library x'.1 x'.2)
      (created sampleDraft, createdRecord sampleDraft) savedWhilePublished := by
  decide

end Rhythm.Monitors.Lifecycle
